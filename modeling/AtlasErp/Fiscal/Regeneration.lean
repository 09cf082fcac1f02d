import AtlasErp.Fiscal.Dispatch

/-! # The XML of a document that is issued again

The XML is not built again: three of its elements are replaced in the text.

- `reemplazar_append`: what is replaced is the first match after a text in which nothing begins like it;
- `render_documento`: where the fields of the header are in the text of a document;
- `xmlRegenerado_documento`: **replacing the elements** is writing the document with the new codes, when they have
  no pattern of replacement. -/

namespace AtlasErp

open Lib

/-! ## Replacement -/

section Search

/-- Two texts differ at a place that both have. -/
def choca : Text → Text → Bool
  | c :: cs, d :: ds => c ≠ d || choca cs ds
  | _, _ => false

/-- Nothing in a text begins like `marca`, whatever comes after. -/
def libre (marca : Text) : Text → Bool
  | [] => true
  | c :: cs => choca marca (c :: cs) && libre marca cs

theorem quitar_of_choca {marca texto : Text} (h : choca marca texto = true) (resto : Text) :
    quitar marca (texto ++ resto) = none := by
  induction marca generalizing texto with
  | nil => cases texto <;> cases h
  | cons c cs ih =>
    cases texto with
    | nil => cases h
    | cons d ds =>
      rw [List.cons_append, quitar]
      split
      · rename_i heq
        subst heq
        refine ih ?_
        simpa [choca] using h
      · rfl

theorem choca_append {marca texto : Text} (h : choca marca texto = true) (resto : Text) :
    choca marca (texto ++ resto) = true := by
  induction marca generalizing texto with
  | nil => cases texto <;> cases h
  | cons c cs ih =>
    cases texto with
    | nil => cases h
    | cons d ds =>
      simp only [List.cons_append, choca, Bool.or_eq_true] at h ⊢
      exact h.imp id ih

theorem libre_append {marca xs ys : Text} (hxs : libre marca xs = true) (hys : libre marca ys = true) :
    libre marca (xs ++ ys) = true := by
  induction xs with
  | nil => exact hys
  | cons x xs ih =>
    simp only [libre, Bool.and_eq_true] at hxs
    simp only [List.cons_append, libre, Bool.and_eq_true]
    exact ⟨choca_append hxs.1 ys, ih hxs.2⟩

theorem libre_of_append {marca xs ys : Text} (h : libre marca (xs ++ ys) = true) : libre marca ys = true := by
  induction xs with
  | nil => exact h
  | cons x xs ih =>
    rw [List.cons_append, libre, Bool.and_eq_true] at h
    exact ih h.2

/-- A text without the first character of a mark. -/
theorem libre_of_not_mem {c : Char} {cs texto : Text} (h : c ∉ texto) : libre (c :: cs) texto = true := by
  induction texto with
  | nil => rfl
  | cons d ds ih =>
    simp only [List.mem_cons, not_or] at h
    simp only [libre, choca, Bool.and_eq_true, Bool.or_eq_true, decide_eq_true_eq]
    exact ⟨.inl h.1, ih h.2⟩

theorem libre_flatMap {α : Type} {marca : Text} {l : List α} {f : α → Text} (h : ∀ a ∈ l, libre marca (f a) = true) :
    libre marca (l.flatMap f) = true := by
  induction l with
  | nil => rfl
  | cons a l ih =>
    rw [List.flatMap_cons]
    exact libre_append (h a List.mem_cons_self) (ih fun b hb => h b (List.mem_cons_of_mem a hb))

/-- A pattern matches only where a text begins like `marca`. -/
def EmpiezaPor (marca : Text) (patron : Text → Option (Text × Text)) : Prop :=
  ∀ texto, quitar marca texto = none → patron texto = none

/-- A search goes through a text in which nothing begins like the pattern. -/
theorem primera_libre {patron : Text → Option (Text × Text)} {marca antes : Text} (hpatron : EmpiezaPor marca patron)
    (h : libre marca antes = true) (resto : Text) :
    primera patron (antes ++ resto) = (primera patron resto).map fun hallado => (antes ++ hallado.1, hallado.2) := by
  induction antes with
  | nil => exact Option.map_id'.symm
  | cons c cs ih =>
    simp only [libre, Bool.and_eq_true] at h
    have hno : patron (c :: (cs ++ resto)) = none := hpatron _ (quitar_of_choca h.1 resto)
    rw [List.cons_append, primera, hno]
    dsimp only
    rw [ih h.2, Option.map_map]
    rfl

/-- Where a pattern matches at once. -/
theorem primera_of_eq_some {patron : Text → Option (Text × Text)} {texto coincidencia cola : Text}
    (h : patron texto = some (coincidencia, cola)) : primera patron texto = some ([], coincidencia, cola) := by
  cases texto with
  | nil => rw [primera, h]; rfl
  | cons c cs => rw [primera, h]

/-- A pattern that begins like a mark is not in a text in which nothing does. -/
theorem primera_eq_none {patron : Text → Option (Text × Text)} {c : Char} {cs texto : Text}
    (hpatron : EmpiezaPor (c :: cs) patron) (h : libre (c :: cs) texto = true) : primera patron texto = none := by
  have hnil : primera patron [] = none := by rw [primera, hpatron [] rfl]; rfl
  have hsearch := primera_libre hpatron h []
  rwa [List.append_nil, hnil] at hsearch

/-- No pattern of a replacement is in a text. -/
def sinPatron : Text → Bool
  | '$' :: c :: cs => c ∉ ['$', '&', '\x60', '\x27'] && sinPatron (c :: cs)
  | _ :: cs => sinPatron cs
  | [] => true

theorem sinPatron_cons {c : Char} {texto : Text} : sinPatron (c :: texto) = true ↔
    (∀ d cs, c = '$' → texto = d :: cs → d ∉ ['$', '&', '\x60', '\x27']) ∧ sinPatron texto = true := by
  cases texto with
  | nil => simp [sinPatron]
  | cons d ds =>
    by_cases hc : c = '$'
    · subst hc
      rw [sinPatron, Bool.and_eq_true, decide_eq_true_eq]
      refine and_congr_left' ⟨fun h e es _ heq => ?_, fun h => h d ds rfl rfl⟩
      obtain ⟨rfl, -⟩ := List.cons.inj heq
      exact h
    · rw [sinPatron]
      · exact ⟨fun h => ⟨fun _ _ heq => absurd heq hc, h⟩, And.right⟩
      · exact fun _ _ heq => absurd heq hc

/-- A character that is not part of a pattern stands for itself. -/
theorem expandir_cons {c : Char} {texto : Text}
    (h : ∀ d cs, c = '$' → texto = d :: cs → d ∉ ['$', '&', '\x60', '\x27']) (antes coincidencia despues : Text) :
    expandir antes coincidencia despues (c :: texto) = c :: expandir antes coincidencia despues texto := by
  rw [expandir]
  all_goals
    rintro cs rfl rfl
    exact absurd (h _ _ rfl rfl) (by decide)

/-- A pattern does not go over a character that is in none. -/
theorem expandir_append (texto : Text) {c : Char} (hc : c ∉ ['$', '&', '\x60', '\x27'])
    (antes coincidencia despues cola : Text) :
    expandir antes coincidencia despues (texto ++ c :: cola) =
      expandir antes coincidencia despues texto ++ expandir antes coincidencia despues (c :: cola) := by
  fun_induction expandir antes coincidencia despues texto with
  | case1 cs ih => rw [List.cons_append, List.cons_append, expandir, ih, List.cons_append]
  | case2 cs ih => rw [List.cons_append, List.cons_append, expandir, ih, List.append_assoc]
  | case3 cs ih => rw [List.cons_append, List.cons_append, expandir, ih, List.append_assoc]
  | case4 cs ih => rw [List.cons_append, List.cons_append, expandir, ih, List.append_assoc]
  | case5 d ds h₁ h₂ h₃ h₄ ih =>
    rw [List.cons_append, expandir_cons, ih, List.cons_append]
    rintro e es rfl heq
    cases ds with
    | nil =>
      obtain ⟨rfl, -⟩ := List.cons.inj heq
      exact hc
    | cons f fs =>
      obtain ⟨rfl, -⟩ := List.cons.inj heq
      intro hmem
      simp only [List.mem_cons, List.not_mem_nil, or_false] at hmem
      rcases hmem with rfl | rfl | rfl | rfl
      · exact h₁ fs rfl rfl
      · exact h₂ fs rfl rfl
      · exact h₃ fs rfl rfl
      · exact h₄ fs rfl rfl
  | case6 => rfl

theorem expandir_of_not_mem {texto : Text} (h : '$' ∉ texto) (antes coincidencia despues : Text) :
    expandir antes coincidencia despues texto = texto := by
  induction texto with
  | nil => rfl
  | cons d ds ih =>
    simp only [List.mem_cons, not_or] at h
    rw [expandir_cons (fun _ _ heq => absurd heq.symm h.1), ih h.2]

theorem expandir_append_of_not_mem {texto : Text} (h : '$' ∉ texto) (antes coincidencia despues resto : Text) :
    expandir antes coincidencia despues (texto ++ resto) = texto ++ expandir antes coincidencia despues resto := by
  induction texto with
  | nil => rfl
  | cons d ds ih =>
    simp only [List.mem_cons, not_or] at h
    rw [List.cons_append, expandir_cons (fun _ _ heq => absurd heq.symm h.1), ih h.2, List.cons_append]

/-- The tags of an element stand for themselves. -/
theorem expandir_enEtiquetas {nombre : Text} (hnombre : '$' ∉ nombre) (contenido antes coincidencia despues : Text) :
    expandir antes coincidencia despues (enEtiquetas nombre contenido) =
      enEtiquetas nombre (expandir antes coincidencia despues contenido) := by
  have habre : '$' ∉ '<' :: (nombre ++ ['>']) := by simp [hnombre]
  have hcierra : '$' ∉ '<' :: '/' :: (nombre ++ ['>']) := by simp [hnombre]
  have heq : ∀ contenido, enEtiquetas nombre contenido =
      '<' :: (nombre ++ ['>']) ++ (contenido ++ ('<' :: '/' :: (nombre ++ ['>']))) := by simp [enEtiquetas]
  rw [heq, heq, expandir_append_of_not_mem habre, expandir_append _ (by decide), expandir_of_not_mem hcierra]

/-- **A text stands for itself or is cut short**: a pattern puts a `$` for two, or a text that begins with markup. -/
theorem expandir_literal {antes coincidencia despues texto : Text} (hantes : antes.head? = some '<')
    (hcoincidencia : coincidencia.head? = some '<') (hmarcas : '<' ∉ texto) (hcomillas : '\x27' ∉ texto) :
    (sinPatron texto = true ∧ expandir antes coincidencia despues texto = texto) ∨
      ((expandir antes coincidencia despues texto).takeWhile (· ≠ '<')).length < texto.length := by
  have hcorta : ∀ {inicio resto : Text}, inicio.head? = some '<' → (inicio ++ resto).takeWhile (· ≠ '<') = [] := by
    intro inicio resto hinicio
    cases inicio with
    | nil => cases hinicio
    | cons c cs =>
      obtain rfl := Option.some.inj hinicio
      rfl
  fun_induction expandir antes coincidencia despues texto with
  | case1 cs ih =>
    right
    simp only [List.mem_cons, not_or] at hmarcas hcomillas
    have hstep : ('$' :: expandir antes coincidencia despues cs).takeWhile (· ≠ '<') =
        '$' :: (expandir antes coincidencia despues cs).takeWhile (· ≠ '<') := rfl
    rw [hstep]
    simp only [List.length_cons]
    rcases ih hmarcas.2.2 hcomillas.2.2 with ⟨-, hsame⟩ | hshort
    · have hle := (List.takeWhile_prefix (p := fun c : Char => decide (c ≠ '<')) (l := cs)).length_le
      rw [hsame]
      omega
    · omega
  | case2 cs =>
    right
    rw [hcorta hcoincidencia]
    exact Nat.succ_pos _
  | case3 cs =>
    right
    rw [hcorta hantes]
    exact Nat.succ_pos _
  | case4 cs => exact absurd (List.mem_cons_of_mem _ List.mem_cons_self) hcomillas
  | case5 c cs h₁ h₂ h₃ h₄ ih =>
    simp only [List.mem_cons, not_or] at hmarcas hcomillas
    rcases ih hmarcas.2 hcomillas.2 with ⟨hsin, hsame⟩ | hshort
    · refine .inl ⟨sinPatron_cons.mpr ⟨?_, hsin⟩, by rw [hsame]⟩
      rintro d ds rfl rfl hmem
      simp only [List.mem_cons, List.not_mem_nil, or_false] at hmem
      rcases hmem with rfl | rfl | rfl | rfl
      · exact h₁ ds rfl rfl
      · exact h₂ ds rfl rfl
      · exact h₃ ds rfl rfl
      · exact h₄ ds rfl rfl
    · right
      have hstep : (c :: expandir antes coincidencia despues cs).takeWhile (· ≠ '<') =
          c :: (expandir antes coincidencia despues cs).takeWhile (· ≠ '<') :=
        List.takeWhile_cons_of_pos (decide_eq_true (Ne.symm hmarcas.1))
      rw [hstep]
      simp only [List.length_cons]
      omega
  | case6 => exact .inl ⟨rfl, rfl⟩

/-- A text without patterns stands for itself. -/
theorem expandir_of_sinPatron {texto : Text} (h : sinPatron texto = true) (antes coincidencia despues : Text) :
    expandir antes coincidencia despues texto = texto := by
  induction texto with
  | nil => rfl
  | cons c cs ih =>
    obtain ⟨hc, hcs⟩ := sinPatron_cons.mp h
    rw [expandir_cons hc, ih hcs]

/-- **The first match is replaced**, when nothing before it begins like the pattern. -/
theorem reemplazar_append {patron : Text → Option (Text × Text)} {marca antes : Text} (reemplazo : Text)
    (hpatron : EmpiezaPor marca patron) (h : libre marca antes = true) {resto coincidencia cola : Text}
    (hresto : patron resto = some (coincidencia, cola)) :
    reemplazar patron reemplazo (antes ++ resto) = antes ++ (expandir antes coincidencia cola reemplazo ++ cola) := by
  rw [reemplazar, primera_libre hpatron h, primera_of_eq_some hresto]
  dsimp only [Option.map_some]
  rw [List.append_nil]

/-- What is before the markup stays, when nothing in it begins like the pattern. -/
theorem exists_reemplazar {patron : Text → Option (Text × Text)} {marca antes reemplazo : Text}
    (hpatron : EmpiezaPor marca patron) (h : libre marca antes = true)
    (hreemplazo : ∀ antes coincidencia despues, ∃ cs, expandir antes coincidencia despues reemplazo = '<' :: cs)
    (resto : Text) : ∃ resto', reemplazar patron reemplazo (antes ++ '<' :: resto) = antes ++ '<' :: resto' := by
  rw [reemplazar, primera_libre hpatron h]
  cases hprimera : primera patron ('<' :: resto) with
  | none => exact ⟨resto, rfl⟩
  | some hallado =>
    obtain ⟨previo, coincidencia, despues⟩ := hallado
    dsimp only [Option.map_some]
    rw [primera] at hprimera
    split at hprimera
    · obtain ⟨rfl, rfl, rfl⟩ := Option.some.inj hprimera
      obtain ⟨cs, hcs⟩ := hreemplazo (antes ++ []) coincidencia despues
      exact ⟨cs ++ despues, by rw [hcs, List.append_nil, List.cons_append]⟩
    · obtain ⟨⟨previo', coincidencia', despues'⟩, -, hpartes⟩ := Option.map_eq_some_iff.mp hprimera
      obtain ⟨rfl, rfl, rfl⟩ := hpartes
      exact ⟨_, by rw [List.append_assoc, List.cons_append]⟩

theorem quitar_append (xs ys : Text) : quitar xs (xs ++ ys) = some ys := by
  induction xs with
  | nil => rfl
  | cons x xs ih => simpa [quitar] using ih

theorem quitar_append_eq_none {marca texto : Text} (resto : Text) (h : quitar marca texto = none) :
    quitar (marca ++ resto) texto = none := by
  induction marca generalizing texto with
  | nil => cases h
  | cons c cs ih =>
    cases texto with
    | nil => rfl
    | cons d ds =>
      rw [quitar] at h
      rw [List.cons_append, quitar]
      split
      · rename_i heq
        rw [if_pos heq] at h
        exact ih h
      · rfl

end Search

/-! ## Elements -/

section Elements

/-- An element with a text is matched as it is. -/
theorem enElemento_enEtiquetas {nombre contenido : Text} (h : '<' ∉ contenido) (cola : Text) :
    enElemento nombre (enEtiquetas nombre contenido ++ cola) = some (enEtiquetas nombre contenido, cola) := by
  have habre : enEtiquetas nombre contenido ++ cola =
      ('<' :: (nombre ++ ['>'])) ++ (contenido ++ ('<' :: '/' :: (nombre ++ '>' :: cola))) := by simp [enEtiquetas]
  have hcontenido : ∀ c ∈ contenido, (decide (c ≠ '<')) = true := fun c hc => by
    simpa using fun heq : c = '<' => h (heq ▸ hc)
  have hdrop : (contenido ++ ('<' :: '/' :: (nombre ++ '>' :: cola))).dropWhile (· ≠ '<') =
      ("</".toList ++ (nombre ++ ['>'])) ++ cola := by
    rw [List.dropWhile_append_of_pos hcontenido]
    simp
  have htake : (contenido ++ ('<' :: '/' :: (nombre ++ '>' :: cola))).takeWhile (· ≠ '<') = contenido := by
    rw [List.takeWhile_append_of_pos hcontenido]
    simp
  rw [enElemento, habre, quitar_append, Option.bind_some, hdrop, htake, quitar_append]
  rfl

theorem empiezaPor_enElemento (nombre : Text) : EmpiezaPor ('<' :: (nombre ++ ['>'])) (enElemento nombre) := by
  intro texto h
  rw [enElemento, h]
  rfl

theorem empiezaPor_enElementoONulo (nombre : Text) : EmpiezaPor ('<' :: nombre) (enElementoONulo nombre) := by
  intro texto h
  have hnulo := quitar_append_eq_none " xsi:nil=\"true\"/>".toList h
  have hvacio := quitar_append_eq_none "/>".toList h
  have helemento := quitar_append_eq_none ['>'] h
  rw [List.cons_append] at hnulo hvacio helemento
  rw [enElementoONulo, hnulo, hvacio]
  exact empiezaPor_enElemento nombre texto helemento

/-- What is escaped has no markup. -/
theorem not_mem_escaparXml (valor : Text) : '<' ∉ escaparXml valor := by
  rw [escaparXml_eq, List.mem_flatMap]
  rintro ⟨c, -, hc⟩
  have hlt : '<' ≠ c := by
    rintro rfl
    exact absurd hc (by decide)
  unfold Xml.escape at hc
  split_ifs at hc <;> simp_all

end Elements

/-! ## The text of a document -/

section Document

/-- A field on its line. -/
def campoTexto (campo : String × Valor) : Text := '\n' :: ("    ".toList ++ (campo.2.nodo campo.1).render)

/-- The text before the fields of the header. -/
def inicioXml : Text :=
  Xml.declaration ++ '\n' :: ('<' :: (raiz ++ (Xml.renderAttributes atributosRaiz ++ '>' :: '\n' ::
    ("  ".toList ++ ('<' :: ("cabecera".toList ++ ['>']))))))

/-- The text after the fields of the header. -/
def finXml (detalle : List DetalleFactura) : Text :=
  '\n' :: ("  </".toList ++ ("cabecera".toList ++ '>' ::
    ((detalle.map fun linea => bloque "detalle".toList linea.campos).flatMap
      (fun nodo => '\n' :: ("  ".toList ++ nodo.render)) ++ '\n' :: ("</".toList ++ (raiz ++ ['>'])))))

/-- **The text of a document**: its header is between a beginning that is always the same and an end that depends
on the lines. -/
theorem render_documento (cabecera : CabeceraFactura) (detalle : List DetalleFactura) :
    Xml.declaration ++ '\n' :: (documento cabecera detalle).render =
      inicioXml ++ (cabecera.campos.flatMap campoTexto ++ finXml detalle) := by
  have hsangria : ('\n' :: "  ".toList).flatMap Xml.escape = '\n' :: "  ".toList := rfl
  have hfin : Xml.renderAll [.text ['\n']] = ['\n'] := rfl
  rw [documento, render_element (by simp [enLineas]), renderAll_append, renderAll_enLineas hsangria, hfin,
    List.flatMap_cons, render_bloque, inicioXml, finXml]
  simp only [List.append_assoc, List.cons_append, List.nil_append]
  rfl

/-- The tags of a field are not the mark. -/
def deOtro (marca : Text) (nombre : String) : Bool :=
  libre marca ('<' :: (nombre.toList ++ ['>'])) && libre marca ('<' :: (nombre.toList ++ [' '])) &&
    libre marca ("</".toList ++ (nombre.toList ++ ['>']))

/-- A field is its element, or is nil. -/
theorem campoTexto_eq (campo : String × Valor) :
    campoTexto campo = '\n' :: ("    ".toList ++ match campo.2.leido with
      | none => '<' :: (campo.1.toList ++ " xsi:nil=\"true\"/>".toList)
      | some texto => enEtiquetas campo.1.toList (escaparXml texto)) := by
  unfold campoTexto Valor.nodo
  cases campo.2.leido with
  | none => simp [Xml.Node.render, Xml.renderAttributes]
  | some texto => simp [Xml.Node.render, Xml.renderAll, Xml.renderAttributes, escaparXml_eq, enEtiquetas]

theorem libre_campoTexto {m : Text} {campo : String × Valor} (h : deOtro ('<' :: m) campo.1 = true) :
    libre ('<' :: m) (campoTexto campo) = true := by
  simp only [deOtro, Bool.and_eq_true] at h
  obtain ⟨⟨habre, hnulo⟩, hcierra⟩ := h
  have hlinea : libre ('<' :: m) ('\n' :: "    ".toList) = true := libre_of_not_mem (by decide)
  rw [campoTexto_eq]
  refine @libre_append _ ('\n' :: "    ".toList) _ hlinea ?_
  cases campo.2.leido with
  | none =>
    have hresto : libre ('<' :: m) "xsi:nil=\"true\"/>".toList = true := libre_of_not_mem (by decide)
    have happend := libre_append hnulo hresto
    simpa using happend
  | some texto =>
    have htexto : libre ('<' :: m) (escaparXml texto) = true := libre_of_not_mem (not_mem_escaparXml texto)
    have happend := libre_append habre (libre_append htexto hcierra)
    simpa [enEtiquetas] using happend

theorem libre_campos {m : Text} {campos : List (String × Valor)} {nombres : List String}
    (h : ∀ nombre ∈ nombres, deOtro ('<' :: m) nombre = true) (hnombres : campos.map (·.1) = nombres) :
    libre ('<' :: m) (campos.flatMap campoTexto) = true :=
  libre_flatMap fun campo hcampo => libre_campoTexto (h campo.1 (hnombres ▸ List.mem_map_of_mem hcampo))

/-! ## The elements that are replaced -/

/-- A text without markup is escaped as it is. -/
theorem escaparXml_eq_self {valor : Text} (h : ∀ c ∈ valor, Xml.escape c = [c]) : escaparXml valor = valor := by
  rw [escaparXml_eq]
  exact (List.flatMap_congr h).trans (by simp)

/-- A character of a name is neither escaped nor part of a pattern. -/
theorem escape_nameChar {c : Char} (h : Xml.isNameChar c = true) : Xml.escape c = [c] ∧ c ≠ '$' := by
  refine ⟨?_, Xml.nameChar_ne h rfl⟩
  unfold Xml.escape
  rw [if_neg (Xml.nameChar_ne h rfl), if_neg (Xml.nameChar_ne h rfl), if_neg (Xml.nameChar_ne h rfl),
    if_neg (Xml.nameChar_ne h rfl), if_neg (Xml.nameChar_ne h rfl)]

theorem escape_decimalText (n : Int) : ∀ c ∈ decimalText n, Xml.escape c = [c] ∧ c ≠ '$' := by
  have hdigits : ∀ c ∈ Nat.toDigits 10 n.natAbs, Xml.escape c = [c] ∧ c ≠ '$' := fun c hc =>
    escape_nameChar (by simp [Xml.isNameChar, Decimal.allDigits_toDigits _ c hc])
  unfold decimalText
  split
  · intro c hc
    rcases List.mem_cons.mp hc with rfl | hc
    · decide
    · exact hdigits c hc
  · exact hdigits

theorem sinPatron_of_not_mem {texto : Text} (h : '$' ∉ texto) : sinPatron texto = true := by
  induction texto with
  | nil => rfl
  | cons c cs ih =>
    simp only [List.mem_cons, not_or] at h
    rw [sinPatron]
    · exact ih h.2
    · rintro c' cs' rfl
      exact absurd rfl h.1

/-- The fields of the header before the CUF, between the CUFD and the code of exception, and after it. -/
def CabeceraFactura.antes (c : CabeceraFactura) : List (String × Valor) := c.campos.take 5

def CabeceraFactura.medio (c : CabeceraFactura) : List (String × Valor) := (c.campos.drop 7).take 18

def CabeceraFactura.tras (c : CabeceraFactura) : List (String × Valor) := c.campos.drop 26

theorem campos_eq (c : CabeceraFactura) :
    c.campos = c.antes ++ ("cuf", .texto c.cuf) :: ("cufd", .texto c.cufd) ::
      (c.medio ++ ("codigoExcepcion", .ofNumero c.codigoExcepcion) :: c.tras) := rfl

/-- The indentation of a field. -/
def sangriaCampo : Text := '\n' :: "    ".toList

theorem libre_sangriaCampo (m : Text) : libre ('<' :: m) sangriaCampo = true := libre_of_not_mem (by decide)

/-- An element that is nil. -/
def elementoNulo (nombre : Text) : Text := '<' :: (nombre ++ " xsi:nil=\"true\"/>".toList)

/-- The element of a text: nil when the text is empty. -/
def elementoTexto (nombre texto : Text) : Text :=
  if texto = [] then elementoNulo nombre else enEtiquetas nombre (escaparXml texto)

theorem elementoTexto_of_ne {texto : Text} (h : texto ≠ []) (nombre : Text) :
    elementoTexto nombre texto = enEtiquetas nombre (escaparXml texto) := if_neg h

theorem exists_elementoTexto (nombre texto : Text) : ∃ cs, elementoTexto nombre texto = '<' :: cs := by
  unfold elementoTexto
  split
  · exact ⟨_, rfl⟩
  · exact ⟨_, rfl⟩

theorem campoTexto_texto (nombre : String) (texto : Text) :
    campoTexto (nombre, .texto texto) = sangriaCampo ++ elementoTexto nombre.toList texto := by
  rw [campoTexto_eq]
  cases texto <;> rfl

theorem campoTexto_numero (nombre : String) (n : Int) :
    campoTexto (nombre, .numero n) = sangriaCampo ++ enEtiquetas nombre.toList (decimalText n) := by
  rw [campoTexto_eq]
  refine congrArg (fun texto => sangriaCampo ++ enEtiquetas nombre.toList texto) ?_
  exact escaparXml_eq_self fun c hc => (escape_decimalText n c hc).1

/-- The code of exception is matched, be it nil or not. -/
theorem codigoExcepcion_spec (codigo : Option Int) :
    ∃ elemento cs, campoTexto ("codigoExcepcion", .ofNumero codigo) = sangriaCampo ++ elemento ∧ elemento = '<' :: cs ∧
      ∀ cola, enElementoONulo "codigoExcepcion".toList (elemento ++ cola) = some (elemento, cola) := by
  cases codigo with
  | none =>
    refine ⟨'<' :: ("codigoExcepcion".toList ++ " xsi:nil=\"true\"/>".toList), _, ?_, rfl, fun cola => ?_⟩
    · rw [campoTexto_eq]
      rfl
    · rw [enElementoONulo, quitar_append]
  | some n =>
    refine ⟨enEtiquetas "codigoExcepcion".toList (decimalText n), _, campoTexto_numero _ n, rfl, fun cola => ?_⟩
    have hnumero : '<' ∉ decimalText n := fun hmem => absurd (escape_decimalText n _ hmem).1 (by decide)
    have habre : enEtiquetas "codigoExcepcion".toList (decimalText n) ++ cola = "<codigoExcepcion>".toList ++
        (decimalText n ++ ("</codigoExcepcion>".toList ++ cola)) := by simp [enEtiquetas]
    have hnulo : quitar ('<' :: ("codigoExcepcion".toList ++ " xsi:nil=\"true\"/>".toList))
        (enEtiquetas "codigoExcepcion".toList (decimalText n) ++ cola) = none := by
      rw [habre]
      exact quitar_of_choca (by decide) _
    have hvacio : quitar ('<' :: ("codigoExcepcion".toList ++ "/>".toList))
        (enEtiquetas "codigoExcepcion".toList (decimalText n) ++ cola) = none := by
      rw [habre]
      exact quitar_of_choca (by decide) _
    rw [enElementoONulo, hnulo, hvacio]
    exact enElemento_enEtiquetas hnumero cola

/-- The names of the fields before the CUF, and of those between the CUFD and the code of exception. -/
theorem nombres_antes (c : CabeceraFactura) : c.antes.map (·.1) = ORDEN_CABECERA.take 5 := rfl

theorem nombres_medio (c : CabeceraFactura) : c.medio.map (·.1) = (ORDEN_CABECERA.drop 7).take 18 := rfl

/-! ## One replacement -/

section Paso

variable {nombre antes resto viejo nuevo : Text}

/-- A new text is written for an old one as it is: both are empty or none, and it has no pattern of replacement. -/
structure Literal (viejo nuevo : Text) : Prop where
  vacio : viejo = [] ↔ nuevo = []
  patron : sinPatron (escaparXml nuevo) = true

/-- An element after its replacement. -/
def elementoPaso (nombre antes resto viejo nuevo : Text) : Text :=
  if viejo = [] then elementoNulo nombre
  else enEtiquetas nombre (expandir antes (elementoTexto nombre viejo) resto (escaparXml nuevo))

/-- **The replacement of an element** that comes once: an element that is nil is not found. -/
theorem reemplazar_elementoTexto (hnombre : '$' ∉ nombre) (hantes : libre ('<' :: (nombre ++ ['>'])) antes = true)
    (hnulo : libre ('<' :: (nombre ++ ['>'])) (elementoNulo nombre ++ resto) = true) :
    reemplazar (enElemento nombre) (enEtiquetas nombre (escaparXml nuevo))
        (antes ++ (elementoTexto nombre viejo ++ resto)) =
      antes ++ (elementoPaso nombre antes resto viejo nuevo ++ resto) := by
  by_cases hviejo : viejo = []
  · subst hviejo
    have hnada : primera (enElemento nombre) (antes ++ (elementoTexto nombre [] ++ resto)) = none :=
      primera_eq_none (empiezaPor_enElemento nombre) (libre_append hantes hnulo)
    rw [reemplazar, hnada]
    rfl
  · rw [elementoPaso, if_neg hviejo, elementoTexto_of_ne hviejo, reemplazar_append _ (empiezaPor_enElemento nombre)
      hantes (enElemento_enEtiquetas (not_mem_escaparXml viejo) resto), expandir_enEtiquetas hnombre]

theorem Literal.elementoPaso (h : Literal viejo nuevo) (nombre antes resto : Text) :
    elementoPaso nombre antes resto viejo nuevo = elementoTexto nombre nuevo := by
  by_cases hviejo : viejo = []
  · rw [AtlasErp.elementoPaso, if_pos hviejo, h.vacio.mp hviejo]
    rfl
  · rw [AtlasErp.elementoPaso, if_neg hviejo, elementoTexto_of_ne fun hnuevo => hviejo (h.vacio.mpr hnuevo),
      expandir_of_sinPatron h.patron]

/-- An element keeps its tag, whatever its replacement stands for. -/
theorem exists_expandir_enEtiquetas (hnombre : '$' ∉ nombre) (contenido antes coincidencia despues : Text) :
    ∃ cs, expandir antes coincidencia despues (enEtiquetas nombre contenido) = '<' :: cs := by
  rw [expandir_enEtiquetas hnombre]
  exact ⟨_, rfl⟩

/-- A text up to its first markup. -/
theorem exists_takeWhile (contenido cola : Text) :
    ∃ cola', contenido ++ '<' :: cola = contenido.takeWhile (· ≠ '<') ++ '<' :: cola' := by
  induction contenido with
  | nil => exact ⟨cola, rfl⟩
  | cons c cs ih =>
    by_cases hc : c = '<'
    · subst hc
      exact ⟨cs ++ '<' :: cola, rfl⟩
    · obtain ⟨cola', hcola⟩ := ih
      have htake : (c :: cs).takeWhile (· ≠ '<') = c :: cs.takeWhile (· ≠ '<') :=
        List.takeWhile_cons_of_pos (decide_eq_true hc)
      exact ⟨cola', by rw [htake, List.cons_append, hcola, List.cons_append]⟩

theorem eq_of_append_marca {xs ys cola cola' : Text} (hxs : '<' ∉ xs) (hys : '<' ∉ ys)
    (h : xs ++ '<' :: cola = ys ++ '<' :: cola') : xs = ys := by
  have htake : ∀ zs cola : Text, '<' ∉ zs → (zs ++ '<' :: cola).takeWhile (· ≠ '<') = zs := by
    intro zs cola hzs
    rw [List.takeWhile_append_of_pos fun c hc => decide_eq_true (ne_of_mem_of_not_mem hc hzs)]
    exact List.append_nil zs
  rw [← htake xs cola hxs, h, htake ys cola' hys]

theorem not_mem_comilla_escaparXml (valor : Text) : '\x27' ∉ escaparXml valor := by
  rw [escaparXml_eq, List.mem_flatMap]
  rintro ⟨c, -, hc⟩
  unfold Xml.escape at hc
  split_ifs at hc with h₁ h₂ h₃ h₄ h₅
  case neg => exact h₅ (List.mem_singleton.mp hc).symm
  all_goals exact absurd hc (by decide)

/-- **What a replacement leaves shows it**: if later replacements keep what is before the markup, and the element is
the one of the new text in the end, then the text was written as it is. -/
theorem literal_of_eq {f : Text → Text} {queda : Text → Prop} {sangria cola cola' : Text}
    (hf : ∀ inicio cola, queda inicio → ∃ cola', f (inicio ++ '<' :: cola) = inicio ++ '<' :: cola')
    (hantes : antes.head? = some '<') (hresto : resto = sangria ++ '<' :: cola)
    (hnulo : queda (antes ++ (elementoNulo nombre ++ sangria)))
    (habre : ∀ contenido : Text, '<' ∉ contenido → queda (antes ++ '<' :: (nombre ++ '>' :: contenido)))
    (h : f (antes ++ (elementoPaso nombre antes resto viejo nuevo ++ resto)) =
      antes ++ (elementoTexto nombre nuevo ++ cola')) : Literal viejo nuevo := by
  have hetiquetas : ∀ contenido cola : Text, enEtiquetas nombre contenido ++ cola =
      '<' :: (nombre ++ '>' :: (contenido ++ '<' :: '/' :: (nombre ++ '>' :: cola))) := by simp [enEtiquetas]
  by_cases hviejo : viejo = [] <;> by_cases hnuevo : nuevo = []
  · subst hnuevo
    exact ⟨iff_of_true hviejo rfl, rfl⟩
  · obtain ⟨cola'', hcola⟩ := hf _ cola hnulo
    rw [elementoPaso, if_pos hviejo, elementoTexto_of_ne hnuevo, hresto, ← List.append_assoc (elementoNulo nombre),
      ← List.append_assoc antes, hcola, List.append_assoc, List.append_cancel_left_eq, hetiquetas, elementoNulo] at h
    simp [List.append_assoc] at h
  · obtain ⟨cola'', hcola⟩ := hf _ ('/' :: (nombre ++ '>' :: resto)) (habre [] List.not_mem_nil)
    subst hnuevo
    have hvacio : expandir antes (elementoTexto nombre viejo) resto (escaparXml []) = [] := rfl
    rw [elementoPaso, if_neg hviejo, hvacio, hetiquetas, show elementoTexto nombre [] = elementoNulo nombre from rfl,
      elementoNulo] at h
    simp only [List.append_assoc, List.cons_append, List.nil_append] at hcola h
    rw [hcola] at h
    simp at h
  · obtain ⟨cola₁, hcola₁⟩ := exists_takeWhile
      (expandir antes (elementoTexto nombre viejo) resto (escaparXml nuevo)) ('/' :: (nombre ++ '>' :: resto))
    have hlibre : '<' ∉ (expandir antes (elementoTexto nombre viejo) resto (escaparXml nuevo)).takeWhile (· ≠ '<') :=
      fun hmem => by simpa using List.mem_takeWhile_imp hmem
    obtain ⟨cola₂, hcola₂⟩ := hf _ cola₁ (habre _ hlibre)
    rw [elementoPaso, if_neg hviejo, elementoTexto_of_ne hnuevo, hetiquetas, hetiquetas, hcola₁] at h
    simp only [List.append_assoc, List.cons_append] at hcola₂ h
    rw [hcola₂] at h
    simp only [List.append_cancel_left_eq, List.cons.injEq, true_and] at h
    have hsame := eq_of_append_marca hlibre (not_mem_escaparXml nuevo) h
    obtain ⟨cs, hcs⟩ := exists_elementoTexto nombre viejo
    refine ⟨iff_of_false hviejo hnuevo, ?_⟩
    rcases expandir_literal hantes (show (elementoTexto nombre viejo).head? = some '<' by rw [hcs]; rfl)
      (not_mem_escaparXml nuevo) (not_mem_comilla_escaparXml nuevo) with ⟨hsin, -⟩ | hcorta
    · exact hsin
    · rw [hsame] at hcorta
      exact absurd hcorta (Nat.lt_irrefl _)

end Paso

/-! ## The three replacements -/

section Regenerado

/-- The text of a document before its CUF. -/
def CabeceraFactura.hastaCuf (c : CabeceraFactura) : Text := inicioXml ++ (c.antes.flatMap campoTexto ++ sangriaCampo)

/-- The text between the CUFD and the code of exception. -/
def CabeceraFactura.hastaExcepcion (c : CabeceraFactura) : Text := c.medio.flatMap campoTexto ++ sangriaCampo

/-- The text after the CUFD, and after the code of exception. -/
def CabeceraFactura.desdeCufd (c : CabeceraFactura) (detalle : List DetalleFactura) : Text :=
  (c.campos.drop 7).flatMap campoTexto ++ finXml detalle

def CabeceraFactura.desdeExcepcion (c : CabeceraFactura) (detalle : List DetalleFactura) : Text :=
  c.tras.flatMap campoTexto ++ finXml detalle

/-- The CUF and the CUFD in the text of a document. -/
theorem render_codigos (c : CabeceraFactura) (detalle : List DetalleFactura) :
    Xml.declaration ++ '\n' :: (documento c detalle).render =
      c.hastaCuf ++ (elementoTexto "cuf".toList c.cuf ++ (sangriaCampo ++ (elementoTexto "cufd".toList c.cufd ++
        c.desdeCufd detalle))) := by
  have hcampos : c.campos = c.antes ++ ("cuf", .texto c.cuf) :: ("cufd", .texto c.cufd) :: c.campos.drop 7 := rfl
  rw [render_documento, hcampos]
  simp only [List.flatMap_append, List.flatMap_cons, campoTexto_texto, CabeceraFactura.hastaCuf,
    CabeceraFactura.desdeCufd, List.append_assoc]

/-- The code of exception in the text after the CUFD. -/
theorem desdeCufd_eq {c : CabeceraFactura} {elemento : Text} (detalle : List DetalleFactura)
    (h : campoTexto ("codigoExcepcion", .ofNumero c.codigoExcepcion) = sangriaCampo ++ elemento) :
    c.desdeCufd detalle = c.hastaExcepcion ++ (elemento ++ c.desdeExcepcion detalle) := by
  have hcampos : c.campos.drop 7 = c.medio ++ ("codigoExcepcion", .ofNumero c.codigoExcepcion) :: c.tras := rfl
  rw [CabeceraFactura.desdeCufd, hcampos]
  simp only [List.flatMap_append, List.flatMap_cons, h, CabeceraFactura.hastaExcepcion,
    CabeceraFactura.desdeExcepcion, List.append_assoc]

/-- A mark that no text of an invoice has but the element of a field. -/
@[mk_iff] structure Ajena (marca : Text) (propio : String) : Prop where
  inicio : libre marca inicioXml = true
  campos : ∀ nombre ∈ ORDEN_CABECERA, nombre ≠ propio → deOtro marca nombre = true
  lineas : ∀ nombre ∈ "detalle" :: ORDEN_DETALLE, deOtro marca nombre = true
  cierre : libre marca "\n  </cabecera>".toList = true
  final : libre marca ('\n' :: ("</".toList ++ (raiz ++ ['>']))) = true

/-- The marks of the three elements. -/
theorem ajenas : Ajena ('<' :: ("cuf".toList ++ ['>'])) "cuf" ∧ Ajena ('<' :: ("cufd".toList ++ ['>'])) "cufd" ∧
    Ajena ('<' :: "codigoExcepcion".toList) "codigoExcepcion" := by
  simp only [ajena_iff]
  decide +kernel

theorem ajena_cuf : Ajena ('<' :: ("cuf".toList ++ ['>'])) "cuf" := ajenas.1

theorem ajena_cufd : Ajena ('<' :: ("cufd".toList ++ ['>'])) "cufd" := ajenas.2.1

theorem ajena_excepcion : Ajena ('<' :: "codigoExcepcion".toList) "codigoExcepcion" := ajenas.2.2

section Ajena

variable {m : Text} {propio : String} (h : Ajena ('<' :: m) propio)
include h

/-- The mark is not in fields other than its own. -/
theorem Ajena.libre_campos {campos : List (String × Valor)} (hcampos : campos.map (·.1) ⊆ ORDEN_CABECERA)
    (hpropio : propio ∉ campos.map (·.1)) : libre ('<' :: m) (campos.flatMap campoTexto) = true :=
  AtlasErp.libre_campos (fun nombre hnombre =>
    h.campos nombre (hcampos hnombre) (ne_of_mem_of_not_mem hnombre hpropio)) rfl

theorem Ajena.libre_hastaCuf (hpropio : propio ∉ ORDEN_CABECERA.take 5) (c : CabeceraFactura) :
    libre ('<' :: m) c.hastaCuf = true :=
  libre_append h.inicio (libre_append (h.libre_campos (nombres_antes c ▸ List.take_subset 5 _)
    (nombres_antes c ▸ hpropio)) (libre_sangriaCampo m))

theorem Ajena.libre_elementoTexto {nombre : String} (hnombre : nombre ∈ ORDEN_CABECERA) (hpropio : nombre ≠ propio)
    (texto : Text) : libre ('<' :: m) (elementoTexto nombre.toList texto) = true := by
  have hcampo := libre_campoTexto
    (show deOtro ('<' :: m) (nombre, Valor.texto texto).1 = true from h.campos nombre hnombre hpropio)
  rw [campoTexto_texto] at hcampo
  exact libre_of_append hcampo

/-- No line has the mark. -/
theorem Ajena.libre_finXml (detalle : List DetalleFactura) : libre ('<' :: m) (finXml detalle) = true := by
  have hdetalle := h.lineas "detalle" List.mem_cons_self
  simp only [deOtro, Bool.and_eq_true] at hdetalle
  obtain ⟨⟨habre, -⟩, hcierra⟩ := hdetalle
  have hblancos : ∀ blancos : Text, blancos.all Xml.isSpace = true → libre ('<' :: m) blancos = true :=
    fun blancos h => libre_of_not_mem fun hmem => absurd (List.all_eq_true.mp h _ hmem) (by decide)
  have hlinea : ∀ linea : DetalleFactura, libre ('<' :: m)
      ('\n' :: ("  ".toList ++ (bloque "detalle".toList linea.campos).render)) = true := by
    intro linea
    have hcampos := AtlasErp.libre_campos (fun nombre hnombre =>
      h.lineas nombre (List.mem_cons_of_mem _ hnombre)) linea.nombres
    rw [render_bloque]
    have happend := libre_append (hblancos "\n  ".toList (by decide)) (libre_append habre
      (libre_append hcampos (libre_append (hblancos "\n  ".toList (by decide)) hcierra)))
    unfold campoTexto at happend
    simpa using happend
  have happend := libre_append h.cierre (libre_append (libre_flatMap (l := detalle) fun linea _ => hlinea linea) h.final)
  simpa [finXml, List.flatMap_map] using happend

theorem Ajena.libre_desdeCufd (hpropio : propio ∉ ORDEN_CABECERA.drop 7) (c : CabeceraFactura)
    (detalle : List DetalleFactura) : libre ('<' :: m) (c.desdeCufd detalle) = true := by
  have hnombres : (c.campos.drop 7).map (·.1) = ORDEN_CABECERA.drop 7 := rfl
  exact libre_append (h.libre_campos (hnombres ▸ List.drop_subset 7 _) (hnombres ▸ hpropio)) (h.libre_finXml detalle)

theorem Ajena.libre_hastaExcepcion (hpropio : propio ∉ (ORDEN_CABECERA.drop 7).take 18) (c : CabeceraFactura) :
    libre ('<' :: m) c.hastaExcepcion = true :=
  libre_append (h.libre_campos (nombres_medio c ▸ List.Subset.trans (List.take_subset 18 _) (List.drop_subset 7 _))
    (nombres_medio c ▸ hpropio)) (libre_sangriaCampo m)

end Ajena

variable {c : CabeceraFactura} {detalle : List DetalleFactura} {cuf cufd : Text}

/-- The replacement of the CUFD, and of the code of exception. -/
def pasoCufd (cufd : Text) : Text → Text :=
  reemplazar (enElemento "cufd".toList) (enEtiquetas "cufd".toList (escaparXml cufd))

def pasoExcepcion (codigoExcepcion : Int) : Text → Text :=
  reemplazar (enElementoONulo "codigoExcepcion".toList)
    (enEtiquetas "codigoExcepcion".toList (decimalText codigoExcepcion))

/-- The text before the CUFD, with a new CUF. -/
def CabeceraFactura.hastaCufd (c : CabeceraFactura) (cuf : Text) : Text :=
  c.hastaCuf ++ (elementoTexto "cuf".toList cuf ++ sangriaCampo)

/-- Before the CUFD there is no code of exception. -/
theorem libre_hastaCufd (c : CabeceraFactura) (cuf : Text) :
    libre ('<' :: "codigoExcepcion".toList) (c.hastaCufd cuf) = true :=
  libre_append (ajena_excepcion.libre_hastaCuf (by decide) c)
    (libre_append (ajena_excepcion.libre_elementoTexto (by decide) (by decide) cuf) (libre_sangriaCampo _))

/-- **The CUF is replaced** where it is. -/
theorem xmlRegenerado_cuf (c : CabeceraFactura) (detalle : List DetalleFactura) (cuf cufd : Text)
    (codigoExcepcion : Int) :
    xmlRegenerado (Xml.declaration ++ '\n' :: (documento c detalle).render) cuf cufd codigoExcepcion =
      pasoExcepcion codigoExcepcion (pasoCufd cufd (c.hastaCuf ++
        (elementoPaso "cuf".toList c.hastaCuf
          (sangriaCampo ++ (elementoTexto "cufd".toList c.cufd ++ c.desdeCufd detalle)) c.cuf cuf ++
          (sangriaCampo ++ (elementoTexto "cufd".toList c.cufd ++ c.desdeCufd detalle))))) := by
  have hantes := ajena_cuf.libre_hastaCuf (by decide) c
  have hnulo : libre ('<' :: ("cuf".toList ++ ['>'])) (elementoNulo "cuf".toList ++
      (sangriaCampo ++ (elementoTexto "cufd".toList c.cufd ++ c.desdeCufd detalle))) = true :=
    libre_append (by decide) (libre_append (libre_sangriaCampo _)
      (libre_append (ajena_cuf.libre_elementoTexto (by decide) (by decide) _)
        (ajena_cuf.libre_desdeCufd (by decide) c detalle)))
  rw [xmlRegenerado, render_codigos, reemplazar_elementoTexto (by decide) hantes hnulo]
  rfl

/-- **The CUFD is replaced** where it is, when the CUF was written as it is. -/
theorem xmlRegenerado_cufd (detalle : List DetalleFactura) (h : Literal c.cuf cuf) (cufd : Text)
    (codigoExcepcion : Int) :
    xmlRegenerado (Xml.declaration ++ '\n' :: (documento c detalle).render) cuf cufd codigoExcepcion =
      pasoExcepcion codigoExcepcion (c.hastaCufd cuf ++
        (elementoPaso "cufd".toList (c.hastaCufd cuf) (c.desdeCufd detalle) c.cufd cufd ++ c.desdeCufd detalle)) := by
  have hantes : libre ('<' :: ("cufd".toList ++ ['>'])) (c.hastaCufd cuf) = true :=
    libre_append (ajena_cufd.libre_hastaCuf (by decide) c)
      (libre_append (ajena_cufd.libre_elementoTexto (by decide) (by decide) cuf) (libre_sangriaCampo _))
  have hnulo : libre ('<' :: ("cufd".toList ++ ['>'])) (elementoNulo "cufd".toList ++ c.desdeCufd detalle) = true :=
    libre_append (by decide) (ajena_cufd.libre_desdeCufd (by decide) c detalle)
  have hagrupa : c.hastaCuf ++ (elementoTexto "cuf".toList cuf ++ (sangriaCampo ++
      (elementoTexto "cufd".toList c.cufd ++ c.desdeCufd detalle))) =
        c.hastaCufd cuf ++ (elementoTexto "cufd".toList c.cufd ++ c.desdeCufd detalle) := by
    simp only [CabeceraFactura.hastaCufd, List.append_assoc]
  rw [xmlRegenerado_cuf, h.elementoPaso, hagrupa, pasoCufd, reemplazar_elementoTexto (by decide) hantes hnulo]

/-- **The code of exception is replaced** where it is, be it nil or not. -/
theorem pasoExcepcion_eq {antes elemento : Text} (hantes : libre ('<' :: "codigoExcepcion".toList) antes = true)
    (hmatch : ∀ cola, enElementoONulo "codigoExcepcion".toList (elemento ++ cola) = some (elemento, cola))
    (codigoExcepcion : Int) (cola : Text) :
    pasoExcepcion codigoExcepcion (antes ++ (elemento ++ cola)) =
      antes ++ (enEtiquetas "codigoExcepcion".toList (decimalText codigoExcepcion) ++ cola) := by
  have hnumero : '$' ∉ decimalText codigoExcepcion := fun hmem => (escape_decimalText codigoExcepcion _ hmem).2 rfl
  rw [pasoExcepcion, reemplazar_append _ (empiezaPor_enElementoONulo _) hantes (hmatch cola),
    expandir_enEtiquetas (by decide), expandir_of_not_mem hnumero]

/-- The document with the new codes. -/
theorem render_regenerado (c : CabeceraFactura) (detalle : List DetalleFactura) (cuf cufd : Text)
    (codigoExcepcion : Int) :
    Xml.declaration ++ '\n' ::
        (documento { c with cuf, cufd, codigoExcepcion := some codigoExcepcion } detalle).render =
      c.hastaCufd cuf ++ (elementoTexto "cufd".toList cufd ++ (c.hastaExcepcion ++
        (enEtiquetas "codigoExcepcion".toList (decimalText codigoExcepcion) ++ c.desdeExcepcion detalle))) := by
  rw [render_codigos, desdeCufd_eq _ (campoTexto_numero _ codigoExcepcion)]
  simp only [CabeceraFactura.hastaCufd, List.append_assoc]
  rfl

/-- What is before the markup stays in the replacement of the code of exception, and of the CUFD. -/
theorem exists_pasoExcepcion {antes : Text} (h : libre ('<' :: "codigoExcepcion".toList) antes = true)
    (codigoExcepcion : Int) (resto : Text) :
    ∃ resto', pasoExcepcion codigoExcepcion (antes ++ '<' :: resto) = antes ++ '<' :: resto' :=
  exists_reemplazar (empiezaPor_enElementoONulo _) h (exists_expandir_enEtiquetas (by decide) _) resto

theorem exists_pasoCufd {antes : Text} (h : libre ('<' :: ("cufd".toList ++ ['>'])) antes = true) (cufd resto : Text) :
    ∃ resto', pasoCufd cufd (antes ++ '<' :: resto) = antes ++ '<' :: resto' :=
  exists_reemplazar (empiezaPor_enElemento _) h (exists_expandir_enEtiquetas (by decide) _) resto

/-- The element of another name up to its text, and an element of another name that is nil. -/
theorem Ajena.libre_abierto {m : Text} {nombre propio : String} (h : Ajena ('<' :: m) propio)
    (hnombre : nombre ∈ ORDEN_CABECERA) (hpropio : nombre ≠ propio) {contenido : Text} (hcontenido : '<' ∉ contenido) :
    libre ('<' :: m) ('<' :: (nombre.toList ++ '>' :: contenido)) = true := by
  have hotro := h.campos nombre hnombre hpropio
  simp only [deOtro, Bool.and_eq_true] at hotro
  have happend := libre_append hotro.1.1 (show libre ('<' :: m) contenido = true from libre_of_not_mem hcontenido)
  simpa using happend

theorem Ajena.libre_elementoNulo {m : Text} {nombre propio : String} (h : Ajena ('<' :: m) propio)
    (hnombre : nombre ∈ ORDEN_CABECERA) (hpropio : nombre ≠ propio) :
    libre ('<' :: m) (elementoNulo nombre.toList) = true :=
  h.libre_elementoTexto hnombre hpropio []

theorem head?_hastaCuf (c : CabeceraFactura) : c.hastaCuf.head? = some '<' := rfl

theorem head?_hastaCufd (c : CabeceraFactura) (cuf : Text) : (c.hastaCufd cuf).head? = some '<' := by
  rw [CabeceraFactura.hastaCufd, List.head?_append, head?_hastaCuf, Option.some_or]

/-- If the CUF is in the text that is left, it was written as it is. -/
theorem literal_cuf {codigoExcepcion : Int} {cola : Text}
    (h : xmlRegenerado (Xml.declaration ++ '\n' :: (documento c detalle).render) cuf cufd codigoExcepcion =
      c.hastaCuf ++ (elementoTexto "cuf".toList cuf ++ cola)) : Literal c.cuf cuf := by
  obtain ⟨cs, hcs⟩ := exists_elementoTexto "cufd".toList c.cufd
  have hcufd := ajena_cufd.libre_hastaCuf (by decide) c
  have hexcepcion := ajena_excepcion.libre_hastaCuf (by decide) c
  have hpasos : ∀ inicio cola, libre ('<' :: ("cufd".toList ++ ['>'])) inicio = true ∧
      libre ('<' :: "codigoExcepcion".toList) inicio = true →
        ∃ cola', pasoExcepcion codigoExcepcion (pasoCufd cufd (inicio ++ '<' :: cola)) = inicio ++ '<' :: cola' := by
    intro inicio cola hinicio
    obtain ⟨cola₁, hcola₁⟩ := exists_pasoCufd hinicio.1 cufd cola
    rw [hcola₁]
    exact exists_pasoExcepcion hinicio.2 codigoExcepcion cola₁
  have hresto : sangriaCampo ++ (elementoTexto "cufd".toList c.cufd ++ c.desdeCufd detalle) =
      sangriaCampo ++ '<' :: (cs ++ c.desdeCufd detalle) := by rw [hcs, List.cons_append]
  rw [xmlRegenerado_cuf] at h
  refine literal_of_eq (f := fun texto => pasoExcepcion codigoExcepcion (pasoCufd cufd texto)) hpasos
    (head?_hastaCuf c) hresto ?_ ?_ h
  · exact ⟨libre_append hcufd (libre_append (ajena_cufd.libre_elementoNulo (by decide) (by decide))
        (libre_sangriaCampo _)),
      libre_append hexcepcion (libre_append (ajena_excepcion.libre_elementoNulo (by decide) (by decide))
        (libre_sangriaCampo _))⟩
  · intro contenido hcontenido
    exact ⟨libre_append hcufd (ajena_cufd.libre_abierto (by decide) (by decide) hcontenido),
      libre_append hexcepcion (ajena_excepcion.libre_abierto (by decide) (by decide) hcontenido)⟩

/-- If the CUFD is in the text that is left, it was written as it is. -/
theorem literal_cufd {codigoExcepcion : Int} {cola : Text} (hcuf : Literal c.cuf cuf)
    (h : xmlRegenerado (Xml.declaration ++ '\n' :: (documento c detalle).render) cuf cufd codigoExcepcion =
      c.hastaCufd cuf ++ (elementoTexto "cufd".toList cufd ++ cola)) : Literal c.cufd cufd := by
  obtain ⟨elemento, cs, helemento, hcs, -⟩ := codigoExcepcion_spec c.codigoExcepcion
  have hantes := libre_hastaCufd c cuf
  have hresto : c.desdeCufd detalle = c.hastaExcepcion ++ '<' :: (cs ++ c.desdeExcepcion detalle) := by
    rw [desdeCufd_eq detalle helemento, hcs, List.cons_append]
  rw [xmlRegenerado_cufd detalle hcuf] at h
  refine literal_of_eq (fun inicio cola hinicio => exists_pasoExcepcion hinicio codigoExcepcion cola)
    (head?_hastaCufd c cuf) hresto ?_ ?_ h
  · exact libre_append hantes (libre_append (ajena_excepcion.libre_elementoNulo (by decide) (by decide))
      (ajena_excepcion.libre_hastaExcepcion (by decide) c))
  · exact fun contenido hcontenido =>
      libre_append hantes (ajena_excepcion.libre_abierto (by decide) (by decide) hcontenido)

/-- **Replacing the elements** of a document is writing it with the new codes exactly when each is written as it is. -/
theorem xmlRegenerado_documento_iff (c : CabeceraFactura) (detalle : List DetalleFactura) (cuf cufd : Text)
    (codigoExcepcion : Int) :
    xmlRegenerado (Xml.declaration ++ '\n' :: (documento c detalle).render) cuf cufd codigoExcepcion =
        Xml.declaration ++ '\n' ::
          (documento { c with cuf, cufd, codigoExcepcion := some codigoExcepcion } detalle).render ↔
      Literal c.cuf cuf ∧ Literal c.cufd cufd := by
  rw [render_regenerado]
  constructor
  · intro h
    have hdesdeCuf := h
    rw [CabeceraFactura.hastaCufd, List.append_assoc, List.append_assoc] at hdesdeCuf
    have hcuf := literal_cuf hdesdeCuf
    exact ⟨hcuf, literal_cufd hcuf h⟩
  · rintro ⟨hcuf, hcufd⟩
    obtain ⟨elemento, cs, helemento, -, hmatch⟩ := codigoExcepcion_spec c.codigoExcepcion
    have hantes : libre ('<' :: "codigoExcepcion".toList)
        (c.hastaCufd cuf ++ (elementoTexto "cufd".toList cufd ++ c.hastaExcepcion)) = true :=
      libre_append (libre_hastaCufd c cuf)
        (libre_append (ajena_excepcion.libre_elementoTexto (by decide) (by decide) cufd)
          (ajena_excepcion.libre_hastaExcepcion (by decide) c))
    have hpaso := pasoExcepcion_eq hantes hmatch codigoExcepcion (c.desdeExcepcion detalle)
    simp only [List.append_assoc] at hpaso
    rw [xmlRegenerado_cufd detalle hcuf, hcufd.elementoPaso, desdeCufd_eq detalle helemento, hpaso]

/-- **Replacing the elements**, when the codes have no pattern of replacement. -/
theorem xmlRegenerado_documento {cabecera : CabeceraFactura} (detalle : List DetalleFactura) (hcuf : cabecera.cuf ≠ [])
    (hcufd : cabecera.cufd ≠ []) {cuf cufd : Text} (hcuf' : cuf ≠ []) (hcufd' : cufd ≠ [])
    (hpatron : sinPatron (escaparXml cuf) = true) (hpatron' : sinPatron (escaparXml cufd) = true)
    (codigoExcepcion : Int) :
    xmlRegenerado (Xml.declaration ++ '\n' :: (documento cabecera detalle).render) cuf cufd codigoExcepcion =
      Xml.declaration ++ '\n' ::
        (documento { cabecera with cuf, cufd, codigoExcepcion := some codigoExcepcion } detalle).render :=
  (xmlRegenerado_documento_iff cabecera detalle cuf cufd codigoExcepcion).mpr
    ⟨⟨iff_of_false hcuf hcuf', hpatron⟩, iff_of_false hcufd hcufd', hpatron'⟩

end Regenerado

end Document

/-! ## The CUF can be written -/

section Cuf

theorem nameChar_of_hexDigit {c : Char} (h : isHexDigit c = true) : Xml.isNameChar c = true := by
  have hval : c.toNat = c.val.toNat := rfl
  have hA : 'A'.val.toNat = 65 := rfl
  have hF : 'F'.val.toNat = 70 := rfl
  have ha : 'a'.val.toNat = 97 := rfl
  have hf : 'f'.val.toNat = 102 := rfl
  simp only [isHexDigit, Bool.or_eq_true, Bool.and_eq_true, decide_eq_true_eq, Char.le_def,
    UInt32.le_iff_toNat_le] at h
  simp only [Xml.isNameChar, Xml.isNameStart, Bool.or_eq_true, decide_eq_true_eq, Xml.isAlpha_iff]
  rcases h with (h | h) | h
  · exact .inl (.inl (.inr h))
  · exact .inl (.inl (.inl (.inl (.inl (.inl (by omega))))))
  · exact .inl (.inl (.inl (.inl (.inl (.inr (by omega))))))

theorem nameChar_hexadecimal (digitos : Text) : ∀ c ∈ hexadecimal digitos, Xml.isNameChar c = true := by
  have hchar : ∀ k < 16, Xml.isNameChar (Nat.digitChar k).toUpper = true := by decide
  have hdigits : ∀ n, ∀ c ∈ Nat.toDigits 16 n, Xml.isNameChar c.toUpper = true := by
    intro n
    induction n using Nat.strongRecOn with
    | ind n ih =>
      intro c hc
      rw [Nat.toDigits_eq_if (by decide)] at hc
      split at hc
      · rw [List.mem_singleton.mp hc]
        exact hchar n ‹_›
      · rcases List.mem_append.mp hc with hc | hc
        · exact ih (n / 16) (by omega) c hc
        · rw [List.mem_singleton.mp hc]
          exact hchar (n % 16) (by omega)
  intro c hc
  obtain ⟨d, hd, rfl⟩ := List.mem_map.mp hc
  exact hdigits _ d hd

/-- **A CUF** is not empty, and has no pattern of replacement. -/
theorem calcularCuf_limpio {input : CufInput} {cuf : Text} (h : calcularCuf input = .ok cuf) :
    cuf ≠ [] ∧ sinPatron (escaparXml cuf) = true := by
  obtain ⟨hcontrol, -⟩ := failIf_bind_eq_ok.mp h
  obtain ⟨cadena, -, -, -, rfl⟩ := calcularCuf_eq_ok h
  obtain ⟨hne, hhex⟩ := not_or.mp hcontrol
  have hname : ∀ c ∈ hexadecimal (cadena ++ modulo11 cadena) ++ input.codigoControl, Xml.isNameChar c = true := by
    intro c hc
    rcases List.mem_append.mp hc with hc | hc
    · exact nameChar_hexadecimal _ c hc
    · exact nameChar_of_hexDigit (List.all_eq_true.mp (not_not.mp hhex) c hc)
  refine ⟨fun hnil => hne (List.append_eq_nil_iff.mp hnil).2, ?_⟩
  rw [escaparXml_eq_self fun c hc => (escape_nameChar (hname c hc)).1]
  exact sinPatron_of_not_mem fun hmem => (escape_nameChar (hname _ hmem)).2 rfl

end Cuf

end AtlasErp
