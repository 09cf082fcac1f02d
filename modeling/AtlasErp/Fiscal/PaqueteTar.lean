import AtlasErp.Common.Basics
import AtlasErp.Lib.Checked
import AtlasErp.Lib.Fields
import AtlasErp.Lib.Radix
import Mathlib.Algebra.Order.BigOperators.Group.List
import Mathlib.Algebra.Group.Action.Defs
import Mathlib.Tactic.Ring

/-! # The archive of a contingency package

The package that is sent is a ustar archive with a file for each invoice.

- `escribirTar`: the archive of a list of files, byte by byte;
- `leerTar`: a ustar reader, with the checksum of each header;
- `leerTar_escribirTar`: the reader finds the names and the contents of all files, in order. -/

namespace AtlasErp
namespace Tar

open Lib

/-- A `Buffer`. -/
abbrev Bytes := List UInt8

def BLOQUE : Nat := 512

def utf8 (texto : Text) : Bytes := texto.flatMap String.utf8EncodeChar

/-- A text of characters below 256, byte by byte. -/
def latin1 (texto : Text) : Bytes := texto.map fun c => c.toNat.toUInt8

/-- `contenido: Buffer | string`. -/
inductive Contenido where
  | buffer (bytes : Bytes)
  | texto (texto : Text)
  deriving DecidableEq

def Contenido.datos : Contenido → Bytes
  | .buffer bytes => bytes
  | .texto contenido => utf8 contenido

structure ArchivoTar where
  nombre : Text
  contenido : Contenido
  deriving DecidableEq

structure TarError where
  message : String
  deriving DecidableEq

/-! ## Writing -/

/-- `cabecera.write(datos, inicio, largo)` -/
def escribir (cabecera : Bytes) (inicio largo : Nat) (datos : Bytes) : Bytes :=
  writeAt cabecera inicio (datos.take largo)

/-- A number in octal digits, and a zero byte. -/
def textoOctal (largo valor : Nat) : Text := radixPad 8 (largo - 1) valor ++ ['\x00']

def octal (cabecera : Bytes) (inicio largo valor : Nat) : Bytes :=
  escribir cabecera inicio largo (latin1 (textoOctal largo valor))

/-- The sum of the bytes of a header, those of the checksum taken as spaces. -/
def sumaDeControl (cabecera : Bytes) : Nat :=
  ((cabecera.take BLOQUE).zipIdx.map fun (byte, i) => if 148 ≤ i ∧ i < 156 then 0x20 else byte.toNat).sum

/-- A header before its checksum is written. -/
def cabeceraSinSuma (nombre : Text) (largo : Nat) : Bytes :=
  let cabecera := List.replicate BLOQUE 0
  let cabecera := escribir cabecera 0 100 (utf8 nombre)
  let cabecera := octal cabecera 100 8 0o644
  let cabecera := octal cabecera 108 8 0
  let cabecera := octal cabecera 116 8 0
  let cabecera := octal cabecera 124 12 largo
  let cabecera := octal cabecera 136 12 0
  let cabecera := escribir cabecera 156 1 (latin1 ['0'])
  let cabecera := escribir cabecera 257 6 (latin1 "ustar\x00".toList)
  escribir cabecera 263 2 (latin1 "00".toList)

def cabeceraDe (nombre : Text) (largo : Nat) : Bytes :=
  let cabecera := cabeceraSinSuma nombre largo
  escribir cabecera 148 8 (latin1 (radixPad 8 6 (sumaDeControl cabecera) ++ ['\x00', ' ']))

/-- The zeros after the contents. -/
def relleno (largo : Nat) : Nat := (BLOQUE - largo % BLOQUE) % BLOQUE

/-- The bytes of one file. -/
def parteDe (archivo : ArchivoTar) : Except TarError Bytes := do
  let datos := archivo.contenido.datos
  failIf ((utf8 archivo.nombre).length > 100) ⟨"Nombre de archivo tar demasiado largo."⟩
  return cabeceraDe archivo.nombre datos.length ++ datos ++ List.replicate (relleno datos.length) 0

def escribirTar (archivos : List ArchivoTar) : Except TarError Bytes := do
  let partes ← archivos.mapM parteDe
  return partes.flatten ++ List.replicate (BLOQUE * 2) 0

/-! ## Reading -/

def leerUtf8 (bytes : Bytes) : Option Text := bytes.toByteArray.utf8Decode?.map Array.toList

def esOctal (c : Char) : Bool := '0' ≤ c && c ≤ '7'

/-- An octal number, up to a zero byte or a space. -/
def leerOctal (campo : Bytes) : Option Nat :=
  let texto := campo.map fun byte => Char.ofNat byte.toNat
  let digitos := texto.takeWhile esOctal
  if digitos ≠ [] ∧ ∀ c ∈ texto.drop digitos.length, c = '\x00' ∨ c = ' ' then some (radixValue 8 digitos) else none

/-- The name and the size of a header with the right mark and checksum. -/
def leerCabecera (cabecera : Bytes) : Option (Text × Nat) :=
  if readAt cabecera 257 6 = latin1 "ustar\x00".toList ∧ readAt cabecera 263 2 = latin1 "00".toList ∧
      leerOctal (readAt cabecera 148 8) = some (sumaDeControl cabecera) then do
    let nombre ← leerUtf8 ((readAt cabecera 0 100).takeWhile (· ≠ 0))
    let largo ← leerOctal (readAt cabecera 124 12)
    return (nombre, largo)
  else none

/-- The files of an archive, which ends with two zero blocks. -/
def leerTar (bytes : Bytes) : Option (List (Text × Bytes)) :=
  if bytes.length < BLOQUE then none
  else if bytes.take BLOQUE = List.replicate BLOQUE 0 then
    if (bytes.drop BLOQUE).take BLOQUE = List.replicate BLOQUE 0 then some [] else none
  else do
    let (nombre, largo) ← leerCabecera (bytes.take BLOQUE)
    let datos := (bytes.drop BLOQUE).take largo
    if datos.length = largo then do
      let siguientes ← leerTar (bytes.drop (BLOQUE + (largo + relleno largo)))
      return (nombre, datos) :: siguientes
    else none
termination_by bytes.length
decreasing_by
  rw [List.length_drop, BLOQUE] at *
  omega

/-! ## Numbers and texts -/

section Campos

theorem leerUtf8_utf8 (texto : Text) : leerUtf8 (utf8 texto) = some texto := by
  have hdecode := @List.utf8Decode?_utf8Encode texto
  rw [leerUtf8, utf8, show (texto.flatMap String.utf8EncodeChar).toByteArray = texto.utf8Encode from rfl, hdecode]
  rfl

@[simp] theorem length_latin1 (texto : Text) : (latin1 texto).length = texto.length := List.length_map _

/-- Characters below 256 are read as they were written. -/
theorem map_latin1 {texto : Text} (h : ∀ c ∈ texto, c.toNat < 256) :
    (latin1 texto).map (fun byte => Char.ofNat byte.toNat) = texto := by
  rw [latin1, List.map_map]
  refine (List.map_congr_left fun c hc => ?_).trans (List.map_id texto)
  show Char.ofNat c.toNat.toUInt8.toNat = c
  rw [Nat.toUInt8_eq, UInt8.toNat_ofNat', Nat.mod_eq_of_lt (h c hc), Char.ofNat_toNat]

theorem esOctal_digitChar : ∀ d < 8, esOctal d.digitChar = true ∧ d.digitChar.toNat < 256 := by
  decide

/-- **An octal number is read back**, up to the zero byte or the space after it. -/
theorem leerOctal_latin1 (ancho valor : Nat) {final : Text} (hfinal : ∀ c ∈ final, c = '\x00' ∨ c = ' ') :
    leerOctal (latin1 (radixPad 8 ancho valor ++ final)) = some valor := by
  have hdigitos : ∀ c ∈ radixPad 8 ancho valor, esOctal c = true ∧ c.toNat < 256 := by
    intro c hc
    obtain ⟨d, hd, rfl⟩ := exists_digitChar_of_mem_pad (by decide) hc
    exact esOctal_digitChar d hd
  have hbytes : ∀ c ∈ radixPad 8 ancho valor ++ final, c.toNat < 256 := by
    intro c hc
    rcases List.mem_append.mp hc with hc | hc
    · exact (hdigitos c hc).2
    · rcases hfinal c hc with rfl | rfl <;> decide
  have htake : (radixPad 8 ancho valor ++ final).takeWhile esOctal = radixPad 8 ancho valor := by
    rw [List.takeWhile_append_of_pos fun c hc => (hdigitos c hc).1]
    cases final with
    | nil => exact List.append_nil _
    | cons c resto =>
      have hstop : ¬esOctal c = true := by
        rcases hfinal c List.mem_cons_self with rfl | rfl <;> decide
      rw [List.takeWhile_cons_of_neg hstop, List.append_nil]
  have hne : radixPad 8 ancho valor ≠ [] := fun hnil => by
    have hnil' := (List.append_eq_nil_iff.mp hnil).2
    exact Nat.toDigits_ne_nil hnil'
  rw [leerOctal, map_latin1 hbytes, htake, List.drop_left, if_pos ⟨hne, hfinal⟩, radixValue_pad (by decide) (by decide)]

theorem length_textoOctal {largo valor : Nat} (hlargo : 1 < largo) (h : valor < 8 ^ (largo - 1)) :
    (textoOctal largo valor).length = largo := by
  rw [textoOctal, List.length_append, length_radixPad (by decide) (by omega) h, List.length_singleton]
  omega

theorem escribir_eq {cabecera datos : Bytes} {inicio largo : Nat} (h : datos.length ≤ largo) :
    escribir cabecera inicio largo datos = writeAt cabecera inicio datos := by
  rw [escribir, List.take_of_length_le h]

theorem octal_eq {cabecera : Bytes} {inicio largo valor : Nat} (hlargo : 1 < largo) (h : valor < 8 ^ (largo - 1)) :
    octal cabecera inicio largo valor = writeAt cabecera inicio (latin1 (textoOctal largo valor)) := by
  rw [octal, escribir_eq]
  rw [length_latin1, length_textoOctal hlargo h]

end Campos

/-! ## The header -/

section Cabecera

variable {nombre : Text} {largo : Nat}

/-- The fields of a header without its checksum. -/
def camposDe (nombre : Text) (largo : Nat) : List (Nat × Bytes) :=
  [(0, utf8 nombre), (100, latin1 (textoOctal 8 0o644)), (108, latin1 (textoOctal 8 0)), (116, latin1 (textoOctal 8 0)),
    (124, latin1 (textoOctal 12 largo)), (136, latin1 (textoOctal 12 0)), (156, latin1 ['0']),
    (257, latin1 "ustar\x00".toList), (263, latin1 "00".toList)]

theorem campos_caben (hnombre : (utf8 nombre).length ≤ 100) (hlargo : largo < 8 ^ 11) :
    ∀ campo ∈ camposDe nombre largo, campo.1 + campo.2.length ≤ (List.replicate BLOQUE (0 : UInt8)).length := by
  have hoctal := length_textoOctal (show 1 < 12 by decide) hlargo
  have hmodo : (textoOctal 8 0o644).length = 8 := length_textoOctal (by decide) (by decide)
  have hcero : (textoOctal 8 0).length = 8 := length_textoOctal (by decide) (by decide)
  have hmtime : (textoOctal 12 0).length = 12 := length_textoOctal (by decide) (by decide)
  simp only [camposDe, List.forall_mem_cons, length_latin1, hoctal, hmodo, hcero, hmtime, List.length_replicate, BLOQUE]
  refine ⟨by omega, by decide, by decide, by decide, by decide, by decide, by decide, by decide, by decide, nofun⟩

/-- A header without its checksum is its fields over zeros. -/
theorem cabeceraSinSuma_eq (hnombre : (utf8 nombre).length ≤ 100) (hlargo : largo < 8 ^ 11) :
    cabeceraSinSuma nombre largo = writeFields (List.replicate BLOQUE 0) (camposDe nombre largo) := by
  rw [cabeceraSinSuma, escribir_eq (by decide), escribir_eq (by decide), escribir_eq (by decide),
    octal_eq (by decide) (by decide), octal_eq (by decide) hlargo, octal_eq (by decide) (by decide),
    octal_eq (by decide) (by decide), octal_eq (by decide) (by decide), escribir_eq hnombre]
  rfl

theorem length_cabeceraSinSuma (hnombre : (utf8 nombre).length ≤ 100) (hlargo : largo < 8 ^ 11) :
    (cabeceraSinSuma nombre largo).length = BLOQUE := by
  rw [cabeceraSinSuma_eq hnombre hlargo, length_writeFields (campos_caben hnombre hlargo), List.length_replicate]

/-! The checksum. -/

/-- The bytes of a part of the header that has none of the checksum. -/
theorem suma_fuera {parte : Bytes} {inicio : Nat} (h : inicio + parte.length ≤ 148 ∨ 156 ≤ inicio) :
    ((parte.zipIdx inicio).map fun (byte, i) => if 148 ≤ i ∧ i < 156 then 0x20 else byte.toNat).sum =
      (parte.map UInt8.toNat).sum := by
  have hmap : ((parte.zipIdx inicio).map fun (byte, i) => if 148 ≤ i ∧ i < 156 then 0x20 else byte.toNat) =
      (parte.zipIdx inicio).map fun p => p.1.toNat := by
    refine List.map_congr_left fun p hp => if_neg ?_
    have hbounds := List.mem_zipIdx hp
    omega
  rw [hmap, ← List.zipIdx_map_fst inicio parte, List.map_map]
  rw [List.zipIdx_map_fst]
  rfl

theorem suma_dentro {parte : Bytes} {inicio : Nat} (hlow : 148 ≤ inicio) (hhigh : inicio + parte.length ≤ 156) :
    ((parte.zipIdx inicio).map fun (byte, i) => if 148 ≤ i ∧ i < 156 then 0x20 else byte.toNat).sum =
      0x20 * parte.length := by
  have hmap : ((parte.zipIdx inicio).map fun (byte, i) => if 148 ≤ i ∧ i < 156 then 0x20 else byte.toNat) =
      (parte.zipIdx inicio).map fun _ => 0x20 := by
    refine List.map_congr_left fun p hp => if_pos ?_
    have hbounds := List.mem_zipIdx hp
    omega
  rw [hmap, List.map_const', List.sum_replicate, List.length_zipIdx, smul_eq_mul, Nat.mul_comm]

/-- The checksum reads what is before and after it. -/
theorem sumaDeControl_eq {cabecera : Bytes} (h : cabecera.length = BLOQUE) :
    sumaDeControl cabecera = ((readAt cabecera 0 148).map UInt8.toNat).sum + 0x20 * 8 +
      ((readAt cabecera 156 356).map UInt8.toNat).sum := by
  have hlength : cabecera.length = 512 := h
  have hparts : cabecera.take BLOQUE = readAt cabecera 0 148 ++ readAt cabecera 148 8 ++ readAt cabecera 156 356 := by
    have hjoin := readAt_append cabecera 0 148 8
    have hjoin' := readAt_append cabecera 0 156 356
    have hwhole : readAt cabecera 0 512 = cabecera := by
      have hall := readAt_zero_length cabecera
      rwa [hlength] at hall
    rw [← h, List.take_length, hjoin]
    exact (hjoin'.trans hwhole).symm
  have hfirst : (readAt cabecera 0 148).length = 148 := length_readAt (by omega)
  have hsecond : (readAt cabecera 148 8).length = 8 := length_readAt (by omega)
  rw [sumaDeControl, hparts, List.zipIdx_append, List.zipIdx_append, List.map_append, List.map_append, List.sum_append,
    List.sum_append, suma_fuera (by omega), List.length_append, hfirst, hsecond, suma_dentro (by omega) (by omega), hsecond,
    suma_fuera (by omega)]

theorem sumaDeControl_lt (cabecera : Bytes) : sumaDeControl cabecera < 8 ^ 6 := by
  have hle : sumaDeControl cabecera ≤
      ((cabecera.take BLOQUE).zipIdx.map fun (byte, i) => if 148 ≤ i ∧ i < 156 then 0x20 else byte.toNat).length • 255 := by
    refine List.sum_le_card_nsmul _ _ fun x hx => ?_
    obtain ⟨p, -, rfl⟩ := List.mem_map.mp hx
    dsimp only
    split
    · decide
    · exact Nat.le_of_lt_succ p.1.toNat_lt
  rw [List.length_map, List.length_zipIdx, List.length_take, smul_eq_mul] at hle
  have hbloque : min BLOQUE cabecera.length ≤ 512 := Nat.min_le_left _ _
  omega

/-- The field of the checksum. -/
def campoSuma (nombre : Text) (largo : Nat) : Nat × Bytes :=
  (148, latin1 (radixPad 8 6 (sumaDeControl (cabeceraSinSuma nombre largo)) ++ ['\x00', ' ']))

theorem length_campoSuma : (campoSuma nombre largo).2.length = 8 := by
  rw [campoSuma, length_latin1, List.length_append, length_radixPad (by decide) (by decide) (sumaDeControl_lt _)]
  rfl

/-- **A header** is its fields over zeros, the checksum last. -/
theorem cabeceraDe_eq (hnombre : (utf8 nombre).length ≤ 100) (hlargo : largo < 8 ^ 11) :
    cabeceraDe nombre largo =
      writeFields (List.replicate BLOQUE 0) (camposDe nombre largo ++ [campoSuma nombre largo]) := by
  have hsuma : cabeceraDe nombre largo = writeAt (cabeceraSinSuma nombre largo) 148 (campoSuma nombre largo).2 :=
    escribir_eq length_campoSuma.le
  rw [hsuma, cabeceraSinSuma_eq hnombre hlargo]
  simp only [writeFields, List.foldl_append, List.foldl_cons, List.foldl_nil]
  rfl

/-- The checksum does not depend on itself. -/
theorem sumaDeControl_cabeceraDe (hnombre : (utf8 nombre).length ≤ 100) (hlargo : largo < 8 ^ 11) :
    sumaDeControl (cabeceraDe nombre largo) = sumaDeControl (cabeceraSinSuma nombre largo) := by
  have hsuma : cabeceraDe nombre largo = writeAt (cabeceraSinSuma nombre largo) 148 (campoSuma nombre largo).2 :=
    escribir_eq length_campoSuma.le
  have hlength := length_cabeceraSinSuma hnombre hlargo
  have hcabe : 148 + (campoSuma nombre largo).2.length ≤ (cabeceraSinSuma nombre largo).length := by
    rw [length_campoSuma, hlength]
    decide
  have hdespues : 148 + (campoSuma nombre largo).2.length ≤ 156 := by rw [length_campoSuma]
  rw [sumaDeControl_eq hlength, hsuma, sumaDeControl_eq ((length_writeAt hcabe).trans hlength),
    readAt_writeAt_of_disjoint hcabe (.inl (by decide)), readAt_writeAt_of_disjoint hcabe (.inr hdespues)]

/-! The fields of a header. -/

variable (nombre largo) in
/-- All fields of a header, in the order in which they are written. -/
def camposConSuma : List (Nat × Bytes) := camposDe nombre largo ++ [campoSuma nombre largo]

theorem camposConSuma_caben (hnombre : (utf8 nombre).length ≤ 100) (hlargo : largo < 8 ^ 11) :
    ∀ campo ∈ camposConSuma nombre largo, campo.1 + campo.2.length ≤ (List.replicate BLOQUE (0 : UInt8)).length := by
  intro campo hcampo
  rcases List.mem_append.mp hcampo with hcampo | hcampo
  · exact campos_caben hnombre hlargo campo hcampo
  · rw [List.mem_singleton.mp hcampo, length_campoSuma, List.length_replicate]
    exact (by decide : 148 + 8 ≤ BLOQUE)

theorem length_cabeceraDe (hnombre : (utf8 nombre).length ≤ 100) (hlargo : largo < 8 ^ 11) :
    (cabeceraDe nombre largo).length = BLOQUE := by
  have hcaben := camposConSuma_caben hnombre hlargo
  rw [camposConSuma] at hcaben
  rw [cabeceraDe_eq hnombre hlargo, length_writeFields hcaben, List.length_replicate]

/-- A field of a header that nothing after it overwrites is read as it was written. -/
theorem readAt_cabeceraDe {antes despues : List (Nat × Bytes)} {inicio size : Nat} {campo : Bytes}
    (hnombre : (utf8 nombre).length ≤ 100) (hlargo : largo < 8 ^ 11)
    (hcampos : camposConSuma nombre largo = antes ++ (inicio, campo) :: despues) (hsize : campo.length = size)
    (hdespues : ∀ f ∈ despues, inicio + size ≤ f.1 ∨ f.1 + f.2.length ≤ inicio) :
    readAt (cabeceraDe nombre largo) inicio size = campo := by
  rw [cabeceraDe_eq hnombre hlargo, ← camposConSuma, ← hsize]
  rw [← hsize] at hdespues
  exact readAt_writeFields hcampos (camposConSuma_caben hnombre hlargo) hdespues

theorem cabeceraDe_marca (hnombre : (utf8 nombre).length ≤ 100) (hlargo : largo < 8 ^ 11) :
    readAt (cabeceraDe nombre largo) 257 6 = latin1 "ustar\x00".toList := by
  have hsplit : camposConSuma nombre largo = (camposDe nombre largo).take 7 ++
      (257, latin1 "ustar\x00".toList) :: [(263, latin1 "00".toList), campoSuma nombre largo] := rfl
  have hsuma : 148 + (campoSuma nombre largo).2.length ≤ 257 := by
    rw [length_campoSuma]
    decide
  refine readAt_cabeceraDe hnombre hlargo hsplit rfl ?_
  rw [List.forall_mem_cons, List.forall_mem_singleton]
  exact ⟨.inl (Nat.le_refl 263), .inr hsuma⟩

theorem cabeceraDe_version (hnombre : (utf8 nombre).length ≤ 100) (hlargo : largo < 8 ^ 11) :
    readAt (cabeceraDe nombre largo) 263 2 = latin1 "00".toList := by
  have hsplit : camposConSuma nombre largo = (camposDe nombre largo).take 8 ++
      (263, latin1 "00".toList) :: [campoSuma nombre largo] := rfl
  have hsuma : 148 + (campoSuma nombre largo).2.length ≤ 263 := by
    rw [length_campoSuma]
    decide
  refine readAt_cabeceraDe hnombre hlargo hsplit rfl ?_
  rw [List.forall_mem_singleton]
  exact .inr hsuma

theorem cabeceraDe_suma (hnombre : (utf8 nombre).length ≤ 100) (hlargo : largo < 8 ^ 11) :
    readAt (cabeceraDe nombre largo) 148 8 = (campoSuma nombre largo).2 := by
  have hsplit : camposConSuma nombre largo = camposDe nombre largo ++ (148, (campoSuma nombre largo).2) :: [] := rfl
  exact readAt_cabeceraDe hnombre hlargo hsplit length_campoSuma nofun

/-- The fields after the size come after it, save the checksum, which comes after it too. -/
theorem despues_de_largo : ∀ f ∈ (camposDe nombre largo).drop 5 ++ [campoSuma nombre largo], 136 ≤ f.1 := by
  simp only [camposDe, List.drop_succ_cons, List.drop_zero, List.cons_append, List.nil_append, List.forall_mem_cons,
    campoSuma]
  exact ⟨by decide, by decide, by decide, by decide, by decide, nofun⟩

theorem cabeceraDe_largo (hnombre : (utf8 nombre).length ≤ 100) (hlargo : largo < 8 ^ 11) :
    readAt (cabeceraDe nombre largo) 124 12 = latin1 (textoOctal 12 largo) := by
  have hsplit : camposConSuma nombre largo = (camposDe nombre largo).take 4 ++
      (124, latin1 (textoOctal 12 largo)) :: ((camposDe nombre largo).drop 5 ++ [campoSuma nombre largo]) := rfl
  have hlength : (latin1 (textoOctal 12 largo)).length = 12 := by
    rw [length_latin1, length_textoOctal (by decide) hlargo]
  exact readAt_cabeceraDe hnombre hlargo hsplit hlength fun f hf => .inl (despues_de_largo f hf)

theorem despues_de_nombre : ∀ f ∈ (camposDe nombre largo).tail ++ [campoSuma nombre largo], 100 ≤ f.1 := by
  simp only [camposDe, List.tail_cons, List.cons_append, List.nil_append, List.forall_mem_cons, campoSuma]
  exact ⟨by decide, by decide, by decide, by decide, by decide, by decide, by decide, by decide, by decide, nofun⟩

/-- The name, and zeros after it: none for a name of 100 bytes. -/
theorem cabeceraDe_nombre (hnombre : (utf8 nombre).length ≤ 100) (hlargo : largo < 8 ^ 11) :
    readAt (cabeceraDe nombre largo) 0 100 = utf8 nombre ++ List.replicate (100 - (utf8 nombre).length) 0 := by
  have hsplit : camposConSuma nombre largo =
      [] ++ (0, utf8 nombre) :: ((camposDe nombre largo).tail ++ [campoSuma nombre largo]) := rfl
  have hread : readAt (cabeceraDe nombre largo) 0 (utf8 nombre).length = utf8 nombre := by
    refine readAt_cabeceraDe hnombre hlargo hsplit rfl fun f hf => .inl ?_
    have hpos := despues_de_nombre f hf
    omega
  have hdisjuntos : ∀ f ∈ camposConSuma nombre largo,
      (utf8 nombre).length + (100 - (utf8 nombre).length) ≤ f.1 ∨ f.1 + f.2.length ≤ (utf8 nombre).length := by
    rw [hsplit, List.nil_append, List.forall_mem_cons]
    refine ⟨.inr (Nat.zero_add _).le, fun f hf => .inl ?_⟩
    have hpos := despues_de_nombre f hf
    omega
  have hceros : readAt (cabeceraDe nombre largo) (utf8 nombre).length (100 - (utf8 nombre).length) =
      List.replicate (100 - (utf8 nombre).length) 0 := by
    rw [cabeceraDe_eq hnombre hlargo, ← camposConSuma,
      readAt_writeFields_of_disjoint (camposConSuma_caben hnombre hlargo) hdisjuntos, readAt, List.drop_replicate,
      List.take_replicate]
    congr 1
    rw [BLOQUE]
    omega
  have hjoin := readAt_append (cabeceraDe nombre largo) 0 (utf8 nombre).length (100 - (utf8 nombre).length)
  rw [Nat.zero_add, hceros, hread, Nat.add_sub_cancel' hnombre] at hjoin
  exact hjoin.symm

/-- **The reader of a header** finds the name and the size. -/
theorem leerCabecera_cabeceraDe (hnombre : (utf8 nombre).length ≤ 100) (hceros : 0 ∉ utf8 nombre)
    (hlargo : largo < 8 ^ 11) :
    leerCabecera (cabeceraDe nombre largo) = some (nombre, largo) := by
  have hleeSuma :
      leerOctal (readAt (cabeceraDe nombre largo) 148 8) = some (sumaDeControl (cabeceraDe nombre largo)) := by
    rw [cabeceraDe_suma hnombre hlargo, sumaDeControl_cabeceraDe hnombre hlargo]
    exact leerOctal_latin1 6 _ (by decide)
  have hleeLargo : leerOctal (readAt (cabeceraDe nombre largo) 124 12) = some largo := by
    rw [cabeceraDe_largo hnombre hlargo]
    exact leerOctal_latin1 11 largo (by decide)
  have hleeNombre : (readAt (cabeceraDe nombre largo) 0 100).takeWhile (· ≠ 0) = utf8 nombre := by
    have hsigue : ∀ byte ∈ utf8 nombre, decide (byte ≠ 0) = true := fun byte hbyte =>
      decide_eq_true (ne_of_mem_of_not_mem hbyte hceros)
    have hstop : (List.replicate (100 - (utf8 nombre).length) (0 : UInt8)).takeWhile (· ≠ 0) = [] := by
      cases 100 - (utf8 nombre).length <;> simp [List.replicate_succ]
    rw [cabeceraDe_nombre hnombre hlargo, List.takeWhile_append_of_pos hsigue, hstop, List.append_nil]
  rw [leerCabecera, if_pos ⟨cabeceraDe_marca hnombre hlargo, cabeceraDe_version hnombre hlargo, hleeSuma⟩, hleeNombre,
    leerUtf8_utf8, hleeLargo]
  rfl

/-- A header is not a block of zeros. -/
theorem cabeceraDe_ne_ceros (hnombre : (utf8 nombre).length ≤ 100) (hlargo : largo < 8 ^ 11) :
    cabeceraDe nombre largo ≠ List.replicate BLOQUE 0 := by
  intro hceros
  have hmarca := cabeceraDe_marca hnombre hlargo
  rw [hceros, readAt, List.drop_replicate, List.take_replicate] at hmarca
  revert hmarca
  decide

end Cabecera

/-! ## The archive -/

section Archivo

/-- A file that a header can describe. -/
structure ArchivoTar.Cabe (archivo : ArchivoTar) : Prop where
  nombre : (utf8 archivo.nombre).length ≤ 100
  sin_ceros : 0 ∉ utf8 archivo.nombre
  contenido : archivo.contenido.datos.length < 8 ^ 11

variable {archivo : ArchivoTar} {archivos : List ArchivoTar} {parte : Bytes}

theorem parteDe_eq (h : archivo.Cabe) :
    parteDe archivo = .ok (cabeceraDe archivo.nombre archivo.contenido.datos.length ++ archivo.contenido.datos ++
      List.replicate (relleno archivo.contenido.datos.length) 0) := by
  rw [parteDe, failIf_of_not (Nat.not_lt.mpr h.nombre)]
  rfl

theorem relleno_mod (largo : Nat) : (largo + relleno largo) % BLOQUE = 0 := by
  rw [relleno, BLOQUE]
  omega

/-- The part of a file is whole blocks. -/
theorem length_parteDe (h : archivo.Cabe) (hparte : parteDe archivo = .ok parte) : parte.length % BLOQUE = 0 := by
  rw [parteDe_eq h] at hparte
  obtain rfl := Except.ok.inj hparte
  have hrelleno := relleno_mod archivo.contenido.datos.length
  rw [List.length_append, List.length_append, List.length_replicate, length_cabeceraDe h.nombre h.contenido, Nat.add_assoc,
    Nat.add_mod_left, hrelleno]

/-- The parts of all files are whole blocks. -/
theorem length_partes {partes : List Bytes} (h : ∀ archivo ∈ archivos, archivo.Cabe)
    (hpartes : List.Forall₂ (fun archivo parte => parteDe archivo = .ok parte) archivos partes) :
    partes.flatten.length % BLOQUE = 0 := by
  induction hpartes with
  | nil => rfl
  | @cons archivo parte archivos partes hparte _ ih =>
    have hfirst := length_parteDe (h archivo List.mem_cons_self) hparte
    have hrest := ih fun archivo harchivo => h archivo (List.mem_cons_of_mem _ harchivo)
    rw [List.flatten_cons, List.length_append, Nat.add_mod, hfirst, hrest]
    rfl

/-- **The reader after a file**: its name and contents, and then what the rest says. -/
theorem leerTar_parteDe (h : archivo.Cabe) (hparte : parteDe archivo = .ok parte) (resto : Bytes) :
    leerTar (parte ++ resto) = (leerTar resto).map ((archivo.nombre, archivo.contenido.datos) :: ·) := by
  rw [parteDe_eq h] at hparte
  obtain rfl := Except.ok.inj hparte
  have hcabecera := length_cabeceraDe h.nombre h.contenido
  have hlee := leerCabecera_cabeceraDe h.nombre h.sin_ceros h.contenido
  have hceros := cabeceraDe_ne_ceros h.nombre h.contenido
  generalize cabeceraDe archivo.nombre archivo.contenido.datos.length = cabecera at *
  generalize archivo.contenido.datos = datos at *
  have hbytes : cabecera ++ datos ++ List.replicate (relleno datos.length) 0 ++ resto =
      cabecera ++ (datos ++ (List.replicate (relleno datos.length) 0 ++ resto)) := by
    rw [List.append_assoc, List.append_assoc]
  have htake : (cabecera ++ (datos ++ (List.replicate (relleno datos.length) 0 ++ resto))).take BLOQUE = cabecera :=
    List.take_left' hcabecera
  have hdatos :
      ((cabecera ++ (datos ++ (List.replicate (relleno datos.length) 0 ++ resto))).drop BLOQUE).take datos.length =
        datos := by
    rw [List.drop_left' hcabecera, List.take_left' rfl]
  have hresto : (cabecera ++ (datos ++ (List.replicate (relleno datos.length) 0 ++ resto))).drop
      (BLOQUE + (datos.length + relleno datos.length)) = resto := by
    rw [← List.drop_drop, List.drop_left' hcabecera, ← List.drop_drop, List.drop_left' rfl,
      List.drop_left' List.length_replicate]
  have hlargo : ¬(cabecera ++ (datos ++ (List.replicate (relleno datos.length) 0 ++ resto))).length < BLOQUE := by
    rw [List.length_append, hcabecera]
    omega
  rw [hbytes, leerTar, if_neg hlargo, htake, if_neg hceros, hlee]
  show (if _ then _ else _) = _
  simp only [hdatos, hresto, if_pos]
  cases leerTar resto <;> rfl

/-- The end of an archive. -/
theorem leerTar_final : leerTar (List.replicate (BLOQUE * 2) 0) = some [] := by
  have hprimero : min BLOQUE (BLOQUE * 2) = BLOQUE := rfl
  have hsegundo : min BLOQUE (BLOQUE * 2 - BLOQUE) = BLOQUE := rfl
  rw [leerTar, List.length_replicate, if_neg (by decide), List.take_replicate, List.drop_replicate, List.take_replicate,
    hprimero, hsegundo, if_pos rfl, if_pos rfl]

/-- The reader over the parts of all files. -/
theorem leerTar_partes {partes : List Bytes} (h : ∀ archivo ∈ archivos, archivo.Cabe)
    (hpartes : List.Forall₂ (fun archivo parte => parteDe archivo = .ok parte) archivos partes) :
    leerTar (partes.flatten ++ List.replicate (BLOQUE * 2) 0) =
      some (archivos.map fun archivo => (archivo.nombre, archivo.contenido.datos)) := by
  induction hpartes with
  | nil => exact leerTar_final
  | @cons archivo parte archivos partes hparte _ ih =>
    rw [List.flatten_cons, List.append_assoc, leerTar_parteDe (h archivo List.mem_cons_self) hparte,
      ih fun archivo harchivo => h archivo (List.mem_cons_of_mem _ harchivo)]
    rfl

/-- **An archive is read back**: it is whole blocks, the last two are zeros, and a reader finds the names and the
contents of all files in their order. -/
theorem leerTar_escribirTar (archivos : List ArchivoTar) (h : ∀ archivo ∈ archivos, archivo.Cabe) :
    ∃ tar, escribirTar archivos = .ok tar ∧ tar.length % 512 = 0 ∧
      (∃ partes, tar = partes ++ List.replicate 1024 0) ∧
      leerTar tar = some (archivos.map fun archivo => (archivo.nombre, archivo.contenido.datos)) := by
  obtain ⟨partes, hforall⟩ :
      ∃ partes, List.Forall₂ (fun archivo parte => parteDe archivo = .ok parte) archivos partes :=
    ⟨_, List.forall₂_map_right_iff.mpr
      (List.forall₂_same.mpr fun archivo harchivo => parteDe_eq (h archivo harchivo))⟩
  have hpartes := mapM_eq_ok.mpr hforall
  have htar : escribirTar archivos = .ok (partes.flatten ++ List.replicate (BLOQUE * 2) 0) := by
    rw [escribirTar, hpartes]
    rfl
  refine ⟨_, htar, ?_, ⟨partes.flatten, rfl⟩, leerTar_partes h hforall⟩
  have hbloques : partes.flatten.length % 512 = 0 := length_partes h hforall
  rw [List.length_append, List.length_replicate, BLOQUE, Nat.add_mul_mod_self_left, hbloques]

/-- A text and an empty file. -/
theorem leerTar_escribirTar_dos :
    ∃ tar, escribirTar [⟨"1.xml".toList, .texto "é".toList⟩, ⟨"2.xml".toList, .buffer []⟩] = .ok tar ∧
      tar.length % 512 = 0 ∧ (∃ partes, tar = partes ++ List.replicate 1024 0) ∧
      leerTar tar = some [("1.xml".toList, [0xc3, 0xa9]), ("2.xml".toList, [])] :=
  leerTar_escribirTar [⟨"1.xml".toList, .texto "é".toList⟩, ⟨"2.xml".toList, .buffer []⟩]
    (List.forall_mem_cons.mpr ⟨⟨by decide, by decide, by decide⟩,
      List.forall_mem_singleton.mpr ⟨by decide, by decide, by decide⟩⟩)

end Archivo

end Tar
end AtlasErp
