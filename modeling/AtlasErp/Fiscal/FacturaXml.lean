import AtlasErp.Common.Basics
import AtlasErp.Lib.Checked
import AtlasErp.Lib.Decimal
import AtlasErp.Lib.Xml

/-! # The XML of a fiscal invoice

The invoice of sector 1 (compra-venta) in the order of the schema of the SIN.

- `construirFacturaXml`: the XML, or why it is refused;
- `documento`: the document it is;
- `leerFactura`: what a reader of the XML finds;
- `leerFactura_construirFacturaXml`: it finds the fields that were given, whatever their texts are. -/

namespace AtlasErp

open Lib

/-! ## Header and lines -/

structure CabeceraFactura where
  nitEmisor : Text
  razonSocialEmisor : Text
  municipio : Text
  telefono : Option Text
  numeroFactura : Int
  cuf : Text
  cufd : Text
  codigoSucursal : Int
  direccion : Text
  codigoPuntoVenta : Option Int
  fechaEmision : Text
  nombreRazonSocial : Option Text
  codigoTipoDocumentoIdentidad : Int
  numeroDocumento : Text
  complemento : Option Text
  codigoCliente : Text
  codigoMetodoPago : Int
  numeroTarjeta : Option Text
  montoTotal : Text
  montoTotalSujetoIva : Text
  codigoMoneda : Int
  tipoCambio : Text
  montoTotalMoneda : Text
  montoGiftCard : Option Text
  descuentoAdicional : Option Text
  codigoExcepcion : Option Int
  cafc : Option Text
  leyenda : Text
  usuario : Text
  codigoDocumentoSector : Int
  deriving DecidableEq

structure DetalleFactura where
  actividadEconomica : Text
  codigoProductoSin : Int
  codigoProducto : Text
  descripcion : Text
  cantidad : Text
  unidadMedida : Int
  precioUnitario : Text
  montoDescuento : Option Text
  subTotal : Text
  numeroSerie : Option Text
  numeroImei : Option Text
  deriving DecidableEq

/-- The value of a field: `string | number | null`. -/
inductive Valor where
  | texto (texto : Text)
  | numero (n : Int)
  | nulo
  deriving DecidableEq

def Valor.ofTexto : Option Text → Valor
  | some cs => .texto cs
  | none => .nulo

def Valor.ofNumero : Option Int → Valor
  | some n => .numero n
  | none => .nulo

def ORDEN_CABECERA : List String :=
  ["nitEmisor", "razonSocialEmisor", "municipio", "telefono", "numeroFactura", "cuf", "cufd", "codigoSucursal",
    "direccion", "codigoPuntoVenta", "fechaEmision", "nombreRazonSocial", "codigoTipoDocumentoIdentidad",
    "numeroDocumento", "complemento", "codigoCliente", "codigoMetodoPago", "numeroTarjeta", "montoTotal",
    "montoTotalSujetoIva", "codigoMoneda", "tipoCambio", "montoTotalMoneda", "montoGiftCard", "descuentoAdicional",
    "codigoExcepcion", "cafc", "leyenda", "usuario", "codigoDocumentoSector"]

def ORDEN_DETALLE : List String :=
  ["actividadEconomica", "codigoProductoSin", "codigoProducto", "descripcion", "cantidad", "unidadMedida",
    "precioUnitario", "montoDescuento", "subTotal", "numeroSerie", "numeroImei"]

/-- The fields of the header, each under its name. -/
def CabeceraFactura.campos (c : CabeceraFactura) : List (String × Valor) :=
  [("nitEmisor", .texto c.nitEmisor),
    ("razonSocialEmisor", .texto c.razonSocialEmisor),
    ("municipio", .texto c.municipio),
    ("telefono", .ofTexto c.telefono),
    ("numeroFactura", .numero c.numeroFactura),
    ("cuf", .texto c.cuf),
    ("cufd", .texto c.cufd),
    ("codigoSucursal", .numero c.codigoSucursal),
    ("direccion", .texto c.direccion),
    ("codigoPuntoVenta", .ofNumero c.codigoPuntoVenta),
    ("fechaEmision", .texto c.fechaEmision),
    ("nombreRazonSocial", .ofTexto c.nombreRazonSocial),
    ("codigoTipoDocumentoIdentidad", .numero c.codigoTipoDocumentoIdentidad),
    ("numeroDocumento", .texto c.numeroDocumento),
    ("complemento", .ofTexto c.complemento),
    ("codigoCliente", .texto c.codigoCliente),
    ("codigoMetodoPago", .numero c.codigoMetodoPago),
    ("numeroTarjeta", .ofTexto c.numeroTarjeta),
    ("montoTotal", .texto c.montoTotal),
    ("montoTotalSujetoIva", .texto c.montoTotalSujetoIva),
    ("codigoMoneda", .numero c.codigoMoneda),
    ("tipoCambio", .texto c.tipoCambio),
    ("montoTotalMoneda", .texto c.montoTotalMoneda),
    ("montoGiftCard", .ofTexto c.montoGiftCard),
    ("descuentoAdicional", .ofTexto c.descuentoAdicional),
    ("codigoExcepcion", .ofNumero c.codigoExcepcion),
    ("cafc", .ofTexto c.cafc),
    ("leyenda", .texto c.leyenda),
    ("usuario", .texto c.usuario),
    ("codigoDocumentoSector", .numero c.codigoDocumentoSector)]

/-- The fields of a line, each under its name. -/
def DetalleFactura.campos (d : DetalleFactura) : List (String × Valor) :=
  [("actividadEconomica", .texto d.actividadEconomica),
    ("codigoProductoSin", .numero d.codigoProductoSin),
    ("codigoProducto", .texto d.codigoProducto),
    ("descripcion", .texto d.descripcion),
    ("cantidad", .texto d.cantidad),
    ("unidadMedida", .numero d.unidadMedida),
    ("precioUnitario", .texto d.precioUnitario),
    ("montoDescuento", .ofTexto d.montoDescuento),
    ("subTotal", .texto d.subTotal),
    ("numeroSerie", .ofTexto d.numeroSerie),
    ("numeroImei", .ofTexto d.numeroImei)]

theorem CabeceraFactura.nombres (c : CabeceraFactura) : c.campos.map (·.1) = ORDEN_CABECERA := rfl

theorem DetalleFactura.nombres (d : DetalleFactura) : d.campos.map (·.1) = ORDEN_DETALLE := rfl

/-! ## The XML -/

def MAX_DETALLES_FACTURA : Nat := 500

/-- The longest text of a field. -/
def LONGITUD_MAXIMA : String → Option Nat
  | "razonSocialEmisor" => some 200
  | "municipio" => some 25
  | "telefono" => some 25
  | "cuf" => some 100
  | "cufd" => some 100
  | "direccion" => some 500
  | "nombreRazonSocial" => some 500
  | "numeroDocumento" => some 20
  | "complemento" => some 5
  | "codigoCliente" => some 100
  | "leyenda" => some 200
  | "usuario" => some 100
  | "codigoProducto" => some 50
  | "descripcion" => some 500
  | _ => none

structure FacturaXmlError where
  code : String
  message : String
  deriving DecidableEq

/-- `texto.length`, in units of UTF-16. -/
def utf16Length (texto : Text) : Nat := (texto.map fun c => if 0x10000 ≤ c.toNat then 2 else 1).sum

/-- `replace(/c/g, text)`. -/
def replaceAll (c : Char) (text : Text) (valor : Text) : Text := valor.flatMap fun d => if d = c then text else [d]

def escaparXml (valor : Text) : Text :=
  replaceAll '\x27' "&apos;".toList
    (replaceAll '\x22' "&quot;".toList
      (replaceAll '>' "&gt;".toList
        (replaceAll '<' "&lt;".toList
          (replaceAll '&' "&amp;".toList valor))))

/-- `String(valor)`, when there is a value and it is not empty. -/
def Valor.leido : Valor → Option Text
  | .texto [] => none
  | .texto (c :: cs) => some (c :: cs)
  | .numero n => some (decimalText n)
  | .nulo => none

def elemento (nombre : String) (valor : Valor) (sangria : Text) : Except FacturaXmlError Text :=
  match valor.leido with
  | none => .ok (sangria ++ '<' :: nombre.toList ++ " xsi:nil=\"true\"/>".toList)
  | some texto =>
    match (LONGITUD_MAXIMA nombre).filter (· < utf16Length texto) with
    | some maximo => .error ⟨"FISCAL_FIELD_TOO_LONG",
        "El campo " ++ nombre ++ " tiene " ++ toString (utf16Length texto) ++ " caracteres y el SIN admite " ++
          toString maximo ++ "."⟩
    | none => .ok (sangria ++ '<' :: nombre.toList ++ '>' :: escaparXml texto ++ "</".toList ++ nombre.toList ++ ['>'])

def raiz : Text := "facturaComputarizadaCompraVenta".toList

/-- The lines of the elements of some fields. -/
def elementos (campos : List (String × Valor)) : Except FacturaXmlError (List Text) :=
  campos.mapM fun campo => elemento campo.1 campo.2 "    ".toList

/-- The lines of a detail. -/
def lineasDetalle (linea : DetalleFactura) : Except FacturaXmlError (List Text) := do
  let campos ← elementos linea.campos
  pure ("  <detalle>".toList :: campos ++ ["  </detalle>".toList])

def construirFacturaXml (codigoModalidad : Int) (cabecera : CabeceraFactura) (detalle : List DetalleFactura) :
    Except FacturaXmlError Text := do
  failIf (codigoModalidad ≠ 2) ⟨"FISCAL_MODALITY_NOT_SUPPORTED",
    "Sólo está implementada la modalidad computarizada en línea (2); la electrónica necesita firma digital."⟩
  failIf (detalle.length = 0 ∨ MAX_DETALLES_FACTURA < detalle.length) ⟨"FISCAL_DETAIL_COUNT_OUT_OF_RANGE",
    "Una factura lleva entre 1 y " ++ toString MAX_DETALLES_FACTURA ++ " líneas; esta tiene " ++
      toString detalle.length ++ "."⟩
  failIf (cabecera.complemento.any (· ≠ []) = true ∧ cabecera.codigoTipoDocumentoIdentidad ≠ 1)
    ⟨"FISCAL_COMPLEMENT_ONLY_FOR_CI", "El complemento sólo se admite con cédula de identidad."⟩
  let camposCabecera ← elementos cabecera.campos
  let lineas ← detalle.mapM lineasDetalle
  pure (['\n'].intercalate
    (["<?xml version=\"1.0\" encoding=\"UTF-8\" standalone=\"yes\"?>".toList,
      '<' :: raiz ++ " xsi:noNamespaceSchemaLocation=\"".toList ++ raiz ++
        ".xsd\" xmlns:xsi=\"http://www.w3.org/2001/XMLSchema-instance\">".toList,
      "  <cabecera>".toList] ++
    camposCabecera ++ ["  </cabecera>".toList] ++ lineas.flatten ++ ["</".toList ++ raiz ++ ['>']]))

/-! ## The document -/

/-- The element of a field. -/
def Valor.nodo (nombre : String) (valor : Valor) : Xml.Node :=
  match valor.leido with
  | none => .element nombre.toList [("xsi:nil".toList, "true".toList)] []
  | some cs => .element nombre.toList [] [.text cs]

/-- Nodes on lines of their own. -/
def enLineas (sangria : Text) (nodos : List Xml.Node) : List Xml.Node :=
  nodos.flatMap fun nodo => [.text ('\n' :: sangria), nodo]

/-- An element with the elements of some fields. -/
def bloque (nombre : Text) (campos : List (String × Valor)) : Xml.Node :=
  .element nombre [] (enLineas "    ".toList (campos.map fun campo => campo.2.nodo campo.1) ++ [.text "\n  ".toList])

/-- The attributes of the root. -/
def atributosRaiz : List (Text × Text) :=
  [("xsi:noNamespaceSchemaLocation".toList, raiz ++ ".xsd".toList),
    ("xmlns:xsi".toList, "http://www.w3.org/2001/XMLSchema-instance".toList)]

/-- The document of an invoice. -/
def documento (cabecera : CabeceraFactura) (detalle : List DetalleFactura) : Xml.Node :=
  .element raiz atributosRaiz
    (enLineas "  ".toList (bloque "cabecera".toList cabecera.campos ::
      detalle.map fun linea => bloque "detalle".toList linea.campos) ++ [.text ['\n']])

/-! ## What a reader finds -/

/-- The elements among nodes, when there is only white space between them. -/
def elementosDe : List Xml.Node → Option (List (Text × List (Text × Text) × List Xml.Node))
  | [] => some []
  | .text cs :: nodos => if cs.all Xml.isSpace then elementosDe nodos else none
  | .element nombre atributos hijos :: nodos => (elementosDe nodos).map ((nombre, atributos, hijos) :: ·)

/-- A field: its name, and its text unless it is nil. -/
def campoDe : Text × List (Text × Text) × List Xml.Node → Option (Text × Option Text)
  | (nombre, [], [.text cs]) => some (nombre, some cs)
  | (nombre, atributos, []) => if atributos = [("xsi:nil".toList, "true".toList)] then some (nombre, none) else none
  | _ => none

/-- The fields of an element of a name. -/
def camposDe (nombre : Text) (elemento : Text × List (Text × Text) × List Xml.Node) :
    Option (List (Text × Option Text)) :=
  if elemento.1 = nombre ∧ elemento.2.1 = [] then do
    let campos ← elementosDe elemento.2.2
    campos.mapM campoDe
  else none

/-- The fields of the header and of each line, as a reader of the XML finds them. -/
def leerFactura (xml : Text) : Option (List (Text × Option Text) × List (List (Text × Option Text))) := do
  match ← Xml.read xml with
  | .element nombre atributos hijos =>
    if nombre = raiz ∧ atributos = atributosRaiz then
      match ← elementosDe hijos with
      | cabecera :: detalle =>
        let camposCabecera ← camposDe "cabecera".toList cabecera
        let camposDetalle ← detalle.mapM (camposDe "detalle".toList)
        pure (camposCabecera, camposDetalle)
      | [] => none
    else none
  | .text _ => none

/-- The fields that were given: the text of each, unless it is null or empty. -/
def dados (campos : List (String × Valor)) : List (Text × Option Text) :=
  campos.map fun campo => (campo.1.toList, campo.2.leido)

/-! ## Escaping -/

/-- The five replacements, one after the other, escape each character. -/
theorem escaparXml_eq (valor : Text) : escaparXml valor = valor.flatMap Xml.escape := by
  unfold escaparXml replaceAll
  simp only [List.flatMap_assoc]
  refine List.flatMap_congr fun c _ => ?_
  unfold Xml.escape
  by_cases hamp : c = '&'
  · subst hamp
    rfl
  by_cases hlt : c = '<'
  · subst hlt
    rfl
  by_cases hgt : c = '>'
  · subst hgt
    rfl
  by_cases hquot : c = '\x22'
  · subst hquot
    rfl
  by_cases hapos : c = '\x27'
  · subst hapos
    rfl
  simp only [hamp, hlt, hgt, hquot, hapos, if_false, List.flatMap_cons, List.flatMap_nil, List.append_nil]

/-! ## The XML is the document -/

section Render

theorem intercalate_cons (l : Text) (ls : List Text) :
    ['\n'].intercalate (l :: ls) = l ++ ls.flatMap ('\n' :: ·) := by
  induction ls generalizing l with
  | nil => simp [List.intercalate]
  | cons l' ls ih =>
    have hrest := ih l'
    simp only [List.intercalate, List.intersperse_cons_cons, List.flatten_cons] at hrest ⊢
    rw [hrest]
    simp

theorem render_element {nombre : Text} {atributos : List (Text × Text)} {hijos : List Xml.Node} (h : hijos ≠ []) :
    (Xml.Node.element nombre atributos hijos).render =
      '<' :: nombre ++ Xml.renderAttributes atributos ++ '>' :: Xml.renderAll hijos ++
        "</".toList ++ nombre ++ ['>'] := by
  cases hijos with
  | nil => exact absurd rfl h
  | cons => rfl

theorem renderAll_append (xs ys : List Xml.Node) :
    Xml.renderAll (xs ++ ys) = Xml.renderAll xs ++ Xml.renderAll ys := by
  induction xs with
  | nil => rfl
  | cons x xs ih => simp [Xml.renderAll, ih]

theorem renderAll_enLineas {sangria : Text} (h : ('\n' :: sangria).flatMap Xml.escape = '\n' :: sangria)
    (nodos : List Xml.Node) :
    Xml.renderAll (enLineas sangria nodos) = nodos.flatMap fun nodo => '\n' :: (sangria ++ nodo.render) := by
  induction nodos with
  | nil => rfl
  | cons nodo nodos ih =>
    simp only [enLineas, List.flatMap_cons] at ih ⊢
    rw [renderAll_append, ih]
    simp only [Xml.renderAll, Xml.Node.render, h]
    simp

/-- The line of a field is its element. -/
theorem elemento_eq_ok {nombre : String} {valor : Valor} {sangria linea : Text}
    (h : elemento nombre valor sangria = .ok linea) : linea = sangria ++ (valor.nodo nombre).render := by
  unfold elemento at h
  unfold Valor.nodo
  cases hleido : valor.leido with
  | none =>
    rw [hleido] at h
    obtain rfl := Except.ok.inj h
    simp [Xml.Node.render, Xml.renderAttributes]
  | some texto =>
    rw [hleido] at h
    dsimp only at h ⊢
    split at h
    · cases h
    · obtain rfl := Except.ok.inj h
      simp [Xml.Node.render, Xml.renderAll, Xml.renderAttributes, escaparXml_eq]

theorem elementos_eq_ok {campos : List (String × Valor)} {lineas : List Text} (h : elementos campos = .ok lineas) :
    lineas = campos.map fun campo => "    ".toList ++ (campo.2.nodo campo.1).render :=
  mapM_eq_map (fun _ _ hlinea => elemento_eq_ok hlinea) h

/-- The lines of a block are the block. -/
theorem render_bloque (nombre : Text) (campos : List (String × Valor)) :
    (bloque nombre campos).render = '<' :: nombre ++ '>' ::
      (campos.flatMap fun campo => '\n' :: ("    ".toList ++ (campo.2.nodo campo.1).render)) ++
        '\n' :: "  </".toList ++ nombre ++ ['>'] := by
  have hsangria : ('\n' :: "    ".toList).flatMap Xml.escape = '\n' :: "    ".toList := rfl
  have hfin : Xml.renderAll [.text "\n  ".toList] = '\n' :: "  ".toList := rfl
  have hcierre : "  </".toList = "  ".toList ++ "</".toList := rfl
  rw [bloque, render_element (by simp), renderAll_append, renderAll_enLineas hsangria, hfin, hcierre]
  simp only [Xml.renderAttributes, List.flatMap_nil, List.append_assoc, List.cons_append, List.flatMap_map,
    List.nil_append]

/-- A block on its lines, after the line before. -/
theorem lineas_bloque {nombre inicio fin : Text} (hinicio : inicio = "  <".toList ++ nombre ++ ['>'])
    (hfin : fin = "  </".toList ++ nombre ++ ['>']) (campos : List (String × Valor)) :
    ((inicio :: (campos.map fun campo => "    ".toList ++ (campo.2.nodo campo.1).render)) ++ [fin]).flatMap
      ('\n' :: ·) = '\n' :: ("  ".toList ++ (bloque nombre campos).render) := by
  have habre : "  <".toList = "  ".toList ++ ['<'] := rfl
  rw [render_bloque, hinicio, hfin, habre]
  simp only [List.flatMap_append, List.flatMap_cons, List.flatMap_nil, List.flatMap_map, List.append_assoc,
    List.cons_append, List.nil_append, List.append_nil]

theorem lineasDetalle_eq_ok {linea : DetalleFactura} {lineas : List Text} (h : lineasDetalle linea = .ok lineas) :
    lineas = ("  <detalle>".toList :: linea.campos.map fun campo =>
      "    ".toList ++ (campo.2.nodo campo.1).render) ++ ["  </detalle>".toList] := by
  obtain ⟨campos, hcampos, h⟩ := bind_eq_ok.mp h
  obtain rfl := pure_eq_ok.mp h
  rw [elementos_eq_ok hcampos]

/-- The lines of a document that has a block of header and the blocks of its lines. -/
theorem intercalate_lineas (declaracion inicio abre cierra fin : Text) (campos : List Text)
    (lineas : List (List Text)) :
    ['\n'].intercalate ([declaracion, inicio, abre] ++ campos ++ [cierra] ++ lineas.flatten ++ [fin]) =
      declaracion ++ '\n' :: (inicio ++ (((abre :: campos) ++ [cierra]).flatMap ('\n' :: ·) ++
        (lineas.flatMap (List.flatMap ('\n' :: ·)) ++ '\n' :: fin))) := by
  have hlineas : lineas.flatten.flatMap ('\n' :: ·) = lineas.flatMap (List.flatMap ('\n' :: ·)) := by
    rw [← List.flatMap_id, List.flatMap_assoc]
    rfl
  simp only [List.cons_append, List.nil_append, intercalate_cons, List.flatMap_cons, List.flatMap_append, hlineas,
    List.flatMap_nil, List.append_assoc]
  simp

/-- **The XML is the document**, after the declaration. -/
theorem construirFacturaXml_eq_ok {codigoModalidad : Int} {cabecera : CabeceraFactura}
    {detalle : List DetalleFactura} {xml : Text} (h : construirFacturaXml codigoModalidad cabecera detalle = .ok xml) :
    xml = Xml.declaration ++ '\n' :: (documento cabecera detalle).render := by
  obtain ⟨-, h⟩ := failIf_bind_eq_ok.mp h
  obtain ⟨-, h⟩ := failIf_bind_eq_ok.mp h
  obtain ⟨-, h⟩ := failIf_bind_eq_ok.mp h
  obtain ⟨camposCabecera, hcabecera, h⟩ := bind_eq_ok.mp h
  obtain ⟨lineas, hlineas, h⟩ := bind_eq_ok.mp h
  obtain rfl := pure_eq_ok.mp h
  clear h
  obtain rfl := elementos_eq_ok hcabecera
  obtain rfl := mapM_eq_map (fun _ _ hlinea => lineasDetalle_eq_ok hlinea) hlineas
  have hsangria : ('\n' :: "  ".toList).flatMap Xml.escape = '\n' :: "  ".toList := rfl
  have hfin : Xml.renderAll [.text ['\n']] = ['\n'] := rfl
  have hraiz : '<' :: raiz ++ " xsi:noNamespaceSchemaLocation=\"".toList ++ raiz ++
        ".xsd\" xmlns:xsi=\"http://www.w3.org/2001/XMLSchema-instance\">".toList =
      '<' :: raiz ++ Xml.renderAttributes atributosRaiz ++ ['>'] := by decide +kernel
  have hbloque := lineas_bloque (show "  <cabecera>".toList = "  <".toList ++ "cabecera".toList ++ ['>'] from rfl)
    (show "  </cabecera>".toList = "  </".toList ++ "cabecera".toList ++ ['>'] from rfl) cabecera.campos
  have hbloques : (detalle.map fun linea => bloque "detalle".toList linea.campos).flatMap
        (fun nodo => '\n' :: ("  ".toList ++ nodo.render)) =
      (detalle.map fun linea => ("  <detalle>".toList :: linea.campos.map fun campo =>
        "    ".toList ++ (campo.2.nodo campo.1).render) ++ ["  </detalle>".toList]).flatMap
          (List.flatMap ('\n' :: ·)) := by
    simp only [List.flatMap_map]
    exact List.flatMap_congr fun linea _ => (lineas_bloque rfl rfl linea.campos).symm
  rw [intercalate_lineas, hraiz, documento, render_element (by simp [enLineas]), renderAll_append,
    renderAll_enLineas hsangria, hfin, hbloque, List.flatMap_cons, hbloques]
  simp only [List.append_assoc, List.cons_append, List.nil_append]
  rfl

end Render

/-! ## The document can be read -/

section Read

/-- A value whose text has characters of XML and no carriage return. -/
def Valor.Legible : Valor → Prop
  | .texto cs => ∀ c ∈ cs, Xml.IsTextChar c
  | _ => True

instance : DecidablePred Valor.Legible
  | .texto cs => inferInstanceAs (Decidable (∀ c ∈ cs, Xml.IsTextChar c))
  | .numero _ => isTrue trivial
  | .nulo => isTrue trivial

theorem isTextChar_of_nameChar {c : Char} (h : Xml.isNameChar c = true) : Xml.IsTextChar c :=
  ⟨Xml.isXmlChar_of_nameChar h, Xml.nameChar_ne h rfl⟩

theorem isTextChar_decimalText (n : Int) : ∀ c ∈ decimalText n, Xml.IsTextChar c := by
  have hdigits : ∀ c ∈ Nat.toDigits 10 n.natAbs, Xml.IsTextChar c := fun c hc =>
    isTextChar_of_nameChar (by simp [Xml.isNameChar, Decimal.allDigits_toDigits _ c hc])
  unfold decimalText
  split
  · intro c hc
    rcases List.mem_cons.mp hc with rfl | hc
    · decide
    · exact hdigits c hc
  · exact hdigits

theorem decimalText_ne_nil (n : Int) : decimalText n ≠ [] := by
  unfold decimalText
  split
  · exact List.cons_ne_nil _ _
  · exact Nat.toDigits_ne_nil

/-- The text of a field is not empty and can be read. -/
theorem ok_of_leido {valor : Valor} (h : valor.Legible) {cs : Text} (hleido : valor.leido = some cs) :
    (Xml.Node.text cs).Ok := by
  cases valor with
  | texto texto =>
    cases texto with
    | nil => cases hleido
    | cons c texto =>
      obtain rfl := Option.some.inj hleido
      exact ⟨List.cons_ne_nil _ _, h⟩
  | numero n =>
    obtain rfl := Option.some.inj hleido
    exact ⟨decimalText_ne_nil n, isTextChar_decimalText n⟩
  | nulo => cases hleido

/-- **A field** is an element, and a reader finds its text in it. -/
theorem nodo_spec {nombre : String} (hnombre : Xml.IsName nombre.toList) {valor : Valor} (h : valor.Legible) :
    ∃ e : Text × List (Text × Text) × List Xml.Node, valor.nodo nombre = .element e.1 e.2.1 e.2.2 ∧
      (valor.nodo nombre).Ok ∧ campoDe e = some (nombre.toList, valor.leido) := by
  unfold Valor.nodo
  cases hleido : valor.leido with
  | none =>
    refine ⟨(nombre.toList, [("xsi:nil".toList, "true".toList)], []), rfl, ⟨hnombre, ?_, trivial⟩, rfl⟩
    decide
  | some cs =>
    refine ⟨(nombre.toList, [], [.text cs]), rfl, ⟨hnombre, ?_, rfl, ok_of_leido h hleido, trivial⟩, rfl⟩
    exact ⟨List.nodup_nil, fun _ ha => absurd ha List.not_mem_nil⟩

/-- Elements on lines of their own can be read. -/
theorem allOk_enLineas {sangria fin : Text} (hsangria : ∀ c ∈ sangria, Xml.IsTextChar c)
    (hfin : (Xml.Node.text fin).Ok) (es : List (Text × List (Text × Text) × List Xml.Node))
    (h : ∀ e ∈ es, (Xml.Node.element e.1 e.2.1 e.2.2).Ok) :
    Xml.AllOk false (enLineas sangria (es.map fun e => .element e.1 e.2.1 e.2.2) ++ [.text fin]) := by
  induction es with
  | nil => exact ⟨rfl, hfin, trivial⟩
  | cons e es ih =>
    have hlinea : ∀ c ∈ '\n' :: sangria, Xml.IsTextChar c := by
      intro c hc
      rcases List.mem_cons.mp hc with rfl | hc
      · decide
      · exact hsangria c hc
    exact ⟨rfl, ⟨List.cons_ne_nil _ _, hlinea⟩, h e List.mem_cons_self,
      ih fun e' he' => h e' (List.mem_cons_of_mem _ he')⟩

/-- A reader finds the elements on their lines. -/
theorem elementosDe_enLineas {sangria fin : Text} (hsangria : sangria.all Xml.isSpace = true)
    (hfin : fin.all Xml.isSpace = true) (es : List (Text × List (Text × Text) × List Xml.Node)) :
    elementosDe (enLineas sangria (es.map fun e => .element e.1 e.2.1 e.2.2) ++ [.text fin]) = some es := by
  induction es with
  | nil => simp [enLineas, elementosDe, hfin]
  | cons e es ih =>
    have hlinea : ('\n' :: sangria).all Xml.isSpace = true := by simp [hsangria, Xml.isSpace]
    have hstep : elementosDe (enLineas sangria ((e :: es).map fun e => .element e.1 e.2.1 e.2.2) ++ [.text fin]) =
        (elementosDe (enLineas sangria (es.map fun e => .element e.1 e.2.1 e.2.2) ++ [.text fin])).map (e :: ·) := by
      show (if ('\n' :: sangria).all Xml.isSpace = true then _ else none) = _
      rw [if_pos hlinea]
      rfl
    rw [hstep, ih]
    rfl

/-- The fields of an element, as a reader finds them. -/
theorem campos_spec {campos : List (String × Valor)} (hnombres : ∀ campo ∈ campos, Xml.IsName campo.1.toList)
    (h : ∀ campo ∈ campos, campo.2.Legible) :
    ∃ es : List (Text × List (Text × Text) × List Xml.Node),
      (campos.map fun campo => campo.2.nodo campo.1) = (es.map fun e => .element e.1 e.2.1 e.2.2) ∧
      (∀ e ∈ es, (Xml.Node.element e.1 e.2.1 e.2.2).Ok) ∧ es.mapM campoDe = some (dados campos) := by
  induction campos with
  | nil => exact ⟨[], rfl, fun _ he => absurd he List.not_mem_nil, rfl⟩
  | cons campo campos ih =>
    obtain ⟨es, hes, hok, hleidos⟩ := ih (fun c hc => hnombres c (List.mem_cons_of_mem _ hc))
      fun c hc => h c (List.mem_cons_of_mem _ hc)
    obtain ⟨e, he, hoke, hleido⟩ := nodo_spec (hnombres campo List.mem_cons_self) (h campo List.mem_cons_self)
    refine ⟨e :: es, ?_, ?_, ?_⟩
    · rw [List.map_cons, List.map_cons, he, hes]
    · intro e' he'
      rcases List.mem_cons.mp he' with rfl | he'
      · rw [← he]
        exact hoke
      · exact hok e' he'
    · rw [List.mapM_cons, hleido, hleidos]
      rfl

/-- **A block** can be read, and a reader finds its fields in it. -/
theorem bloque_spec {nombre : Text} (hnombre : Xml.IsName nombre) {campos : List (String × Valor)}
    (hnombres : ∀ campo ∈ campos, Xml.IsName campo.1.toList) (h : ∀ campo ∈ campos, campo.2.Legible) :
    ∃ e : Text × List (Text × Text) × List Xml.Node, bloque nombre campos = .element e.1 e.2.1 e.2.2 ∧
      (Xml.Node.element e.1 e.2.1 e.2.2).Ok ∧ camposDe nombre e = some (dados campos) := by
  obtain ⟨es, hes, hok, hleidos⟩ := campos_spec hnombres h
  have hcontenido := @allOk_enLineas "    ".toList "\n  ".toList (by decide)
    ⟨List.cons_ne_nil _ _, by decide⟩ es hok
  have hencontrado := @elementosDe_enLineas "    ".toList "\n  ".toList rfl rfl es
  rw [← hes] at hcontenido hencontrado
  refine ⟨(nombre, [], enLineas "    ".toList (campos.map fun campo => campo.2.nodo campo.1) ++
    [.text "\n  ".toList]), rfl, ⟨hnombre, ⟨List.nodup_nil, fun _ ha => absurd ha List.not_mem_nil⟩, hcontenido⟩, ?_⟩
  rw [camposDe, if_pos ⟨rfl, rfl⟩, hencontrado]
  exact hleidos

theorem isName_cabecera (cabecera : CabeceraFactura) : ∀ campo ∈ cabecera.campos, Xml.IsName campo.1.toList := by
  have horden : ∀ nombre ∈ ORDEN_CABECERA, Xml.IsName nombre.toList := by decide
  intro campo hcampo
  exact horden campo.1 (cabecera.nombres ▸ List.mem_map_of_mem hcampo)

theorem isName_detalle (linea : DetalleFactura) : ∀ campo ∈ linea.campos, Xml.IsName campo.1.toList := by
  have horden : ∀ nombre ∈ ORDEN_DETALLE, Xml.IsName nombre.toList := by decide
  intro campo hcampo
  exact horden campo.1 (linea.nombres ▸ List.mem_map_of_mem hcampo)

/-- The blocks of the lines, as a reader finds them. -/
theorem detalle_spec {detalle : List DetalleFactura} (h : ∀ linea ∈ detalle, ∀ campo ∈ linea.campos, campo.2.Legible) :
    ∃ es : List (Text × List (Text × Text) × List Xml.Node),
      (detalle.map fun linea => bloque "detalle".toList linea.campos) =
        (es.map fun e => .element e.1 e.2.1 e.2.2) ∧
      (∀ e ∈ es, (Xml.Node.element e.1 e.2.1 e.2.2).Ok) ∧
      es.mapM (camposDe "detalle".toList) = some (detalle.map fun linea => dados linea.campos) := by
  induction detalle with
  | nil => exact ⟨[], rfl, fun _ he => absurd he List.not_mem_nil, rfl⟩
  | cons linea detalle ih =>
    obtain ⟨es, hes, hok, hleidos⟩ := ih fun l hl => h l (List.mem_cons_of_mem _ hl)
    obtain ⟨e, he, hoke, hleido⟩ := @bloque_spec "detalle".toList (by decide) _
      (isName_detalle linea) (h linea List.mem_cons_self)
    refine ⟨e :: es, ?_, ?_, ?_⟩
    · rw [List.map_cons, List.map_cons, he, hes]
    · intro e' he'
      rcases List.mem_cons.mp he' with rfl | he'
      · exact hoke
      · exact hok e' he'
    · rw [List.mapM_cons, hleido, hleidos]
      rfl

/-- **The document** can be read, and a reader finds the header and the lines in it. -/
theorem documento_spec {cabecera : CabeceraFactura} {detalle : List DetalleFactura}
    (hcabecera : ∀ campo ∈ cabecera.campos, campo.2.Legible)
    (hdetalle : ∀ linea ∈ detalle, ∀ campo ∈ linea.campos, campo.2.Legible) :
    ∃ hijos e es, documento cabecera detalle = .element raiz atributosRaiz hijos ∧
      (documento cabecera detalle).Ok ∧ elementosDe hijos = some (e :: es) ∧
      camposDe "cabecera".toList e = some (dados cabecera.campos) ∧
      es.mapM (camposDe "detalle".toList) = some (detalle.map fun linea => dados linea.campos) := by
  obtain ⟨es, hes, hok, hleidos⟩ := detalle_spec hdetalle
  obtain ⟨e, he, hoke, hleido⟩ := @bloque_spec "cabecera".toList (by decide) _
    (isName_cabecera cabecera) hcabecera
  have hbloques : (bloque "cabecera".toList cabecera.campos ::
      detalle.map fun linea => bloque "detalle".toList linea.campos) =
        ((e :: es).map fun e => .element e.1 e.2.1 e.2.2) := by
    rw [List.map_cons, he, hes]
  have hoks : ∀ e' ∈ e :: es, (Xml.Node.element e'.1 e'.2.1 e'.2.2).Ok := by
    intro e' he'
    rcases List.mem_cons.mp he' with rfl | he'
    · exact hoke
    · exact hok e' he'
  have hcontenido := @allOk_enLineas "  ".toList ['\n'] (by decide)
    ⟨List.cons_ne_nil _ _, by decide⟩ (e :: es) hoks
  have hencontrado := @elementosDe_enLineas "  ".toList ['\n'] rfl rfl (e :: es)
  rw [← hbloques] at hcontenido hencontrado
  refine ⟨_, e, es, rfl, ⟨?_, ?_, hcontenido⟩, hencontrado, hleido, hleidos⟩
  · decide
  · decide

end Read

theorem nombres_dados {campos : List (String × Valor)} {orden : List String} (h : campos.map (·.1) = orden) :
    (dados campos).map (·.1) = orden.map String.toList := by
  rw [← h, dados, List.map_map, List.map_map]
  rfl

/-- **Round trip, and no injection**: the XML is read as the document of the fields, whatever their texts are,
and a reader finds in it the fields of the header and of each line, in the order of the schema, with their
texts. -/
theorem leerFactura_construirFacturaXml {codigoModalidad : Int} {cabecera : CabeceraFactura}
    {detalle : List DetalleFactura} {xml : Text} (h : construirFacturaXml codigoModalidad cabecera detalle = .ok xml)
    (hcabecera : ∀ campo ∈ cabecera.campos, campo.2.Legible)
    (hdetalle : ∀ linea ∈ detalle, ∀ campo ∈ linea.campos, campo.2.Legible) :
    Xml.read xml = some (documento cabecera detalle) ∧
      leerFactura xml = some (dados cabecera.campos, detalle.map fun linea => dados linea.campos) ∧
      (dados cabecera.campos).map (·.1) = ORDEN_CABECERA.map String.toList ∧
      ∀ linea ∈ detalle, (dados linea.campos).map (·.1) = ORDEN_DETALLE.map String.toList := by
  obtain ⟨hijos, e, es, hdocumento, hok, hencontrado, hleido, hleidos⟩ := documento_spec hcabecera hdetalle
  have hread : Xml.read xml = some (documento cabecera detalle) := by
    rw [construirFacturaXml_eq_ok h]
    rw [hdocumento] at hok ⊢
    exact Xml.read_render hok
  refine ⟨hread, ?_, nombres_dados cabecera.nombres, fun linea _ => nombres_dados linea.nombres⟩
  simp only [leerFactura, hread, hdocumento, Option.bind_eq_bind, Option.bind_some, and_self, if_true, hencontrado,
    hleido, hleidos, Option.pure_def]

/-- An invoice whose texts have markup, quotes, accents and a line feed. -/
def exampleCabecera : CabeceraFactura where
  nitEmisor := "1020304050".toList
  razonSocialEmisor := "Atlas & Compañía \"La Paz\"".toList
  municipio := "La Paz".toList
  telefono := none
  numeroFactura := 7
  cuf := "A1B2".toList
  cufd := "C3D4".toList
  codigoSucursal := 0
  direccion := "Calle 1\nPiso 2".toList
  codigoPuntoVenta := some 0
  fechaEmision := "2026-09-26T10:00:00.000".toList
  nombreRazonSocial := some "</nombreRazonSocial><cuf>X</cuf>".toList
  codigoTipoDocumentoIdentidad := 5
  numeroDocumento := "998877".toList
  complemento := some []
  codigoCliente := "C-1".toList
  codigoMetodoPago := 1
  numeroTarjeta := none
  montoTotal := "12.50".toList
  montoTotalSujetoIva := "12.50".toList
  codigoMoneda := 1
  tipoCambio := "1".toList
  montoTotalMoneda := "12.50".toList
  montoGiftCard := none
  descuentoAdicional := none
  codigoExcepcion := some (-1)
  cafc := none
  leyenda := "Ley N° 453: ]]> <!-- 'x'".toList
  usuario := "ana".toList
  codigoDocumentoSector := 1

def exampleDetalle : DetalleFactura where
  actividadEconomica := "620000".toList
  codigoProductoSin := 83141
  codigoProducto := "P-1".toList
  descripcion := "</detalle><detalle> & más".toList
  cantidad := "1".toList
  unidadMedida := 58
  precioUnitario := "12.50".toList
  montoDescuento := none
  subTotal := "12.50".toList
  numeroSerie := some []
  numeroImei := none

def exampleXml : Text := (construirFacturaXml 2 exampleCabecera [exampleDetalle]).toOption.getD []

theorem construirFacturaXml_exampleXml : construirFacturaXml 2 exampleCabecera [exampleDetalle] = .ok exampleXml := by
  obtain ⟨xml, hxml⟩ := exists_of_isOk (show (construirFacturaXml 2 exampleCabecera [exampleDetalle]).isOk = true by
    decide)
  rw [exampleXml, hxml]
  rfl

theorem leerFactura_construirFacturaXml_example :
    leerFactura exampleXml = some (dados exampleCabecera.campos, [dados exampleDetalle.campos]) :=
  (@leerFactura_construirFacturaXml 2 exampleCabecera [exampleDetalle] exampleXml construirFacturaXml_exampleXml
    (by decide) (by decide)).2.1

end AtlasErp
