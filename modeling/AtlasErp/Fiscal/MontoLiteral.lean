import AtlasErp.Common.Basics
import AtlasErp.Lib.Checked
import Mathlib.Data.List.Basic

/-! # The total of an invoice in words

- `enteroEnLetras`: an integer in words;
- `leerNumeral`: the reader, by the grammar of Spanish numerals;
- `enteroEnLetras_fiel`: what was written is read back, so different integers have different texts. -/

namespace AtlasErp

open Lib

/-! ## Writing -/

/-- The words up to twenty-nine. -/
def UNIDADES : List Text := [[], "uno".toList, "dos".toList, "tres".toList, "cuatro".toList, "cinco".toList, "seis".toList,
  "siete".toList, "ocho".toList, "nueve".toList, "diez".toList, "once".toList, "doce".toList, "trece".toList,
  "catorce".toList, "quince".toList, "dieciséis".toList, "diecisiete".toList, "dieciocho".toList, "diecinueve".toList,
  "veinte".toList, "veintiuno".toList, "veintidós".toList, "veintitrés".toList, "veinticuatro".toList,
  "veinticinco".toList, "veintiséis".toList, "veintisiete".toList, "veintiocho".toList, "veintinueve".toList]

def DECENAS : List Text := [[], [], [], "treinta".toList, "cuarenta".toList, "cincuenta".toList, "sesenta".toList,
  "setenta".toList, "ochenta".toList, "noventa".toList]

def CENTENAS : List Text := [[], "ciento".toList, "doscientos".toList, "trescientos".toList, "cuatrocientos".toList,
  "quinientos".toList, "seiscientos".toList, "setecientos".toList, "ochocientos".toList, "novecientos".toList]

/-- What is left of the hundreds. -/
def decenasEnLetras (resto : Nat) : Text :=
  if resto < 30 then UNIDADES.getD resto []
  else DECENAS.getD (resto / 10) [] ++
    (if resto % 10 ≠ 0 then " y ".toList ++ UNIDADES.getD (resto % 10) [] else [])

def hastaMil (n : Nat) : Text :=
  if n = 0 then []
  else if n = 100 then "cien".toList
  else
    let centena := CENTENAS.getD (n / 100) []
    let resto := n % 100
    if resto > 0 then
      if centena ≠ [] then centena ++ ' ' :: decenasEnLetras resto else decenasEnLetras resto
    else centena

/-- The end of a text, replaced. -/
def reemplazarFinal (final nuevo texto : Text) : Text := texto.take (texto.length - final.length) ++ nuevo

/-- `/(^|\s)uno$/` -/
def terminaEnUno (texto : Text) : Bool :=
  decide ("uno".toList <:+ texto) && (texto.take (texto.length - 3)).getLast?.all isWhiteSpace

/-- «uno» becomes «un» before mil and millón. -/
def apocope (texto : Text) : Text :=
  let primero := if terminaEnUno texto then reemplazarFinal "uno".toList "un".toList texto else texto
  if "veintiuno".toList <:+ primero then reemplazarFinal "veintiuno".toList "veintiún".toList primero else primero

/-- `RangeError` of `enteroEnLetras`. -/
structure LiteralError where
  message : String
  deriving DecidableEq

/-- The part of the thousands. -/
def parteMiles (miles : Nat) : List Text :=
  if miles > 0 then if miles = 1 then ["mil".toList] else [apocope (hastaMil miles) ++ " mil".toList] else []

/-- The parts below a million: the thousands and the rest. -/
def partesMenores (miles resto : Nat) : List Text := parteMiles miles ++ if resto > 0 then [hastaMil resto] else []

def enteroEnLetras (n : Int) : Except LiteralError Text :=
  if n < 0 ∨ n > 999999999999 then .error ⟨"Importe fuera del rango que se escribe en letras."⟩
  else if n = 0 then .ok "cero".toList
  else do
    let millones := n / 1000000
    let primera ← if millones > 0 then
        if millones = 1 then .ok ["un millón".toList]
        else (enteroEnLetras millones).map fun texto => [apocope texto ++ " millones".toList]
      else .ok []
    return [' '].intercalate (primera ++ partesMenores (n % 1000000 / 1000).toNat (n % 1000).toNat)
termination_by n.toNat
decreasing_by omega

/-! ## Reading -/

/-- The words of a text. -/
def palabras (texto : Text) : List Text := texto.splitOn ' '

/-- A word up to twenty-nine, or a shortened one. -/
def valorUnidad (palabra : Text) : Option Nat :=
  if palabra = "un".toList then some 1
  else if palabra = "veintiún".toList then some 21
  else if palabra = [] then none
  else UNIDADES.idxOf? palabra

def valorDecena (palabra : Text) : Option Nat :=
  if palabra = [] then none else (DECENAS.idxOf? palabra).map (10 * ·)

def valorCentena (palabra : Text) : Option Nat :=
  if palabra = [] then none else (CENTENAS.idxOf? palabra).map (100 * ·)

/-- One or two figures: a unit, a ten, or a ten and a unit. -/
def leerDecenas : List Text → Option Nat
  | [] => some 0
  | [palabra] => valorUnidad palabra <|> valorDecena palabra
  | [decena, y, unidad] =>
    if y = "y".toList then do
      let diez ← valorDecena decena
      let uno ← (valorUnidad unidad).filter (· < 10)
      return diez + uno
    else none
  | _ => none

/-- Up to three figures. -/
def leerCentenas : List Text → Option Nat
  | [] => some 0
  | palabra :: resto =>
    if palabra = "cien".toList then if resto = [] then some 100 else none
    else
      match valorCentena palabra with
      | some cien => (leerDecenas resto).map (cien + ·)
      | none => leerDecenas (palabra :: resto)

/-- Thousands before «mil», one of them when nothing is before. -/
def leerMiles (ps : List Text) : Option Nat :=
  if "mil".toList ∈ ps then do
    let antes := ps.takeWhile (· ≠ "mil".toList)
    let miles ← (if antes = [] then some 1 else leerCentenas antes)
    let resto ← leerCentenas (ps.dropWhile (· ≠ "mil".toList)).tail
    return 1000 * miles + resto
  else leerCentenas ps

def esMillon (palabra : Text) : Bool := palabra = "millón".toList ∨ palabra = "millones".toList

/-- A numeral: millions, thousands and the rest. -/
def leerNumeral (texto : Text) : Option Nat :=
  let ps := palabras texto
  if texto = "cero".toList then some 0
  else if ps.any esMillon then do
    let millones ← leerMiles (ps.takeWhile (!esMillon ·))
    let resto ← leerMiles (ps.dropWhile (!esMillon ·)).tail
    return 1000000 * millones + resto
  else leerMiles ps

/-! ## Texts and their words -/

section Palabras

theorem palabras_append (x y : Text) : palabras (x ++ ' ' :: y) = palabras x ++ palabras y :=
  List.splitOn_append_cons_self x y

/-- The words of parts that are joined. -/
theorem palabras_intercalate {partes : List Text} (hne : partes ≠ []) :
    palabras ([' '].intercalate partes) = partes.flatMap palabras := by
  induction partes with
  | nil => exact absurd rfl hne
  | cons parte partes ih =>
    cases partes with
    | nil => simp [List.intercalate_singleton]
    | cons otra partes =>
      rw [List.intercalate_cons_cons, List.append_assoc, List.singleton_append, palabras_append, ih (List.cons_ne_nil _ _)]
      rfl

/-- A word at the end of a text is at the end of its last part. -/
theorem suffix_append_iff {palabra x t : Text} (hword : ' ' ∉ palabra) : palabra <:+ x ++ ' ' :: t ↔ palabra <:+ t := by
  constructor
  · intro h
    have htail : ' ' :: t <:+ x ++ ' ' :: t := List.suffix_append _ _
    rcases List.suffix_or_suffix_of_suffix h htail with hshort | hlong
    · rcases List.suffix_cons_iff.mp hshort with heq | hsuffix
      · exact absurd (heq ▸ List.mem_cons_self) hword
      · exact hsuffix
    · exact absurd (hlong.subset List.mem_cons_self) hword
  · intro h
    exact h.trans ((List.suffix_cons ' ' t).trans (List.suffix_append _ _))

theorem take_append_cons {k : Nat} {t : Text} (hk : k ≤ t.length) (x : Text) :
    (x ++ ' ' :: t).take ((x ++ ' ' :: t).length - k) = x ++ ' ' :: t.take (t.length - k) := by
  have hlength : (x ++ ' ' :: t).length - k = x.length + ((t.length - k) + 1) := by
    rw [List.length_append, List.length_cons]
    omega
  rw [hlength, List.take_length_add_append, List.take_succ_cons]

theorem reemplazarFinal_append {final t : Text} (hk : final.length ≤ t.length) (nuevo x : Text) :
    reemplazarFinal final nuevo (x ++ ' ' :: t) = x ++ ' ' :: reemplazarFinal final nuevo t := by
  rw [reemplazarFinal, take_append_cons hk, reemplazarFinal, List.append_assoc, List.cons_append]

theorem terminaEnUno_append (x t : Text) : terminaEnUno (x ++ ' ' :: t) = terminaEnUno t := by
  have hsuffix : "uno".toList <:+ x ++ ' ' :: t ↔ "uno".toList <:+ t := suffix_append_iff (by decide)
  unfold terminaEnUno
  by_cases h : "uno".toList <:+ t
  · have hk : 3 ≤ t.length := h.length_le
    -- at the start of the last part there is a space before it
    have hlast : ((x ++ ' ' :: t).take ((x ++ ' ' :: t).length - 3)).getLast?.all isWhiteSpace =
        (t.take (t.length - 3)).getLast?.all isWhiteSpace := by
      rw [take_append_cons hk]
      rcases List.eq_nil_or_concat (t.take (t.length - 3)) with hnil | ⟨inicio, c, hconcat⟩
      · rw [hnil, List.getLast?_append_cons]
        decide
      · rw [hconcat, List.concat_eq_append, ← List.cons_append, ← List.append_assoc, List.getLast?_concat,
          List.getLast?_concat]
    rw [decide_eq_true (hsuffix.mpr h), decide_eq_true h, hlast]
  · rw [decide_eq_false (mt hsuffix.mp h), decide_eq_false h, Bool.false_and, Bool.false_and]

/-- Shortening a text is shortening its last part. -/
theorem apocope_append (x t : Text) : apocope (x ++ ' ' :: t) = x ++ ' ' :: apocope t := by
  have hprimero : (if terminaEnUno (x ++ ' ' :: t) then reemplazarFinal "uno".toList "un".toList (x ++ ' ' :: t)
      else x ++ ' ' :: t) =
      x ++ ' ' :: (if terminaEnUno t then reemplazarFinal "uno".toList "un".toList t else t) := by
    rw [terminaEnUno_append]
    split
    next huno =>
      have hsuffix : "uno".toList <:+ t := of_decide_eq_true (Bool.and_eq_true _ _ ▸ huno).1
      exact reemplazarFinal_append hsuffix.length_le _ _
    next => rfl
  unfold apocope
  rw [hprimero]
  generalize (if terminaEnUno t then reemplazarFinal "uno".toList "un".toList t else t) = primero
  have hsuffix : "veintiuno".toList <:+ x ++ ' ' :: primero ↔ "veintiuno".toList <:+ primero :=
    suffix_append_iff (by decide)
  by_cases h : "veintiuno".toList <:+ primero
  · simp only [if_pos (hsuffix.mpr h), if_pos h]
    exact reemplazarFinal_append h.length_le _ _
  · simp only [if_neg (mt hsuffix.mp h), if_neg h]

/-- A text that does not end in «o» stays. -/
theorem apocope_of_getLast {texto : Text} (h : texto.getLast? ≠ some 'o') : apocope texto = texto := by
  have hnot : ∀ palabra : Text, palabra.getLast? = some 'o' → ¬palabra <:+ texto := by
    rintro palabra hpalabra ⟨inicio, rfl⟩
    exact h (by rw [List.getLast?_append, hpalabra]; rfl)
  have huno : terminaEnUno texto = false := by
    rw [terminaEnUno, decide_eq_false (hnot _ (by decide)), Bool.false_and]
  simp only [apocope, huno, Bool.false_eq_true, if_false, if_neg (hnot "veintiuno".toList (by decide))]

end Palabras

/-! ## Up to three figures -/

section Centenas

/-- The words of a text are those of a number below a thousand. -/
structure Escribe (texto : Text) (n : Nat) : Prop where
  lee : leerCentenas (palabras texto) = some n
  sinMil : ∀ palabra ∈ palabras texto, palabra ≠ "mil".toList ∧ esMillon palabra = false

instance (texto : Text) (n : Nat) : Decidable (Escribe texto n) :=
  decidable_of_iff (leerCentenas (palabras texto) = some n ∧
    ∀ palabra ∈ palabras texto, palabra ≠ "mil".toList ∧ esMillon palabra = false)
    ⟨fun h => ⟨h.1, h.2⟩, fun h => ⟨h.lee, h.sinMil⟩⟩

/-- One or two figures, as they are and before mil. -/
theorem decenas_escribe : ∀ resto < 100, 0 < resto →
    Escribe (decenasEnLetras resto) resto ∧ Escribe (apocope (decenasEnLetras resto)) resto ∧
      leerDecenas (palabras (decenasEnLetras resto)) = some resto ∧
      leerDecenas (palabras (apocope (decenasEnLetras resto))) = some resto := by
  decide

/-- A hundred is one word, and it is never shortened. -/
theorem centena_escribe : ∀ centena < 10, 0 < centena →
    CENTENAS.getD centena [] ≠ [] ∧ palabras (CENTENAS.getD centena []) = [CENTENAS.getD centena []] ∧
      CENTENAS.getD centena [] ≠ "cien".toList ∧ valorCentena (CENTENAS.getD centena []) = some (100 * centena) ∧
      Escribe (CENTENAS.getD centena []) (100 * centena) ∧
      apocope (CENTENAS.getD centena []) = CENTENAS.getD centena [] := by
  decide

/-- Hundreds and what follows them. -/
theorem escribe_centena {centena resto : Nat} (hc : centena < 10) (hpos : 0 < centena) {decenas : Text}
    (hlee : leerDecenas (palabras decenas) = some resto) (hdecenas : Escribe decenas resto) :
    Escribe (CENTENAS.getD centena [] ++ ' ' :: decenas) (100 * centena + resto) := by
  obtain ⟨-, hpalabras, hcien, hvalor, hescribe, -⟩ := centena_escribe centena hc hpos
  constructor
  · rw [palabras_append, hpalabras, List.singleton_append, leerCentenas, if_neg hcien, hvalor]
    simp only [hlee, Option.map_some]
  · intro palabra hpalabra
    rw [palabras_append] at hpalabra
    rcases List.mem_append.mp hpalabra with h | h
    · exact hescribe.sinMil palabra h
    · exact hdecenas.sinMil palabra h

/-- **Up to three figures** are read back, as they are and before mil. -/
theorem hastaMil_escribe {n : Nat} (hpos : 0 < n) (hlt : n < 1000) :
    Escribe (hastaMil n) n ∧ Escribe (apocope (hastaMil n)) n := by
  rcases eq_or_ne n 100 with rfl | hcien
  · decide
  have hcentena : n / 100 < 10 := by omega
  have hresto : n % 100 < 100 := by omega
  have hsplit : 100 * (n / 100) + n % 100 = n := by omega
  rw [hastaMil, if_neg hpos.ne', if_neg hcien]
  dsimp only
  rcases Nat.eq_zero_or_pos (n % 100) with hzero | hrestoPos
  · have hcentenaPos : 0 < n / 100 := by omega
    obtain ⟨-, -, -, -, hescribe, hapocope⟩ := centena_escribe (n / 100) hcentena hcentenaPos
    rw [show 100 * (n / 100) = n by omega] at hescribe
    rw [if_neg (by omega), hapocope]
    exact ⟨hescribe, hescribe⟩
  · obtain ⟨hescribe, hbreve, hlee, hleeBreve⟩ := decenas_escribe (n % 100) hresto hrestoPos
    rw [if_pos hrestoPos]
    rcases Nat.eq_zero_or_pos (n / 100) with hzero | hcentenaPos
    · rw [hzero, if_neg (by decide)]
      rw [show n % 100 = n by omega] at hescribe hbreve ⊢
      exact ⟨hescribe, hbreve⟩
    · have hne := (centena_escribe (n / 100) hcentena hcentenaPos).1
      have hfull := escribe_centena hcentena hcentenaPos hlee hescribe
      have hshort := escribe_centena hcentena hcentenaPos hleeBreve hbreve
      rw [hsplit] at hfull hshort
      rw [if_pos hne, apocope_append]
      exact ⟨hfull, hshort⟩

end Centenas

/-! ## Below a million -/

section Miles

variable {miles resto : Nat} {antes despues : List Text}

/-- The words before the first one of a kind, and those from it on. -/
theorem span_append_cons {seguir : Text → Bool} {palabra : Text} (hantes : ∀ p ∈ antes, seguir p = true)
    (hstop : seguir palabra = false) : (antes ++ palabra :: despues).takeWhile seguir = antes ∧
      (antes ++ palabra :: despues).dropWhile seguir = palabra :: despues := by
  constructor
  · rw [List.takeWhile_append_of_pos hantes, List.takeWhile_cons_of_neg (by simp [hstop]), List.append_nil]
  · rw [List.dropWhile_append_of_pos hantes, List.dropWhile_cons_of_neg (by simp [hstop])]

theorem leerMiles_mil (hantes : ∀ palabra ∈ antes, palabra ≠ "mil".toList)
    (hmiles : (if antes = [] then some 1 else leerCentenas antes) = some miles)
    (hresto : leerCentenas despues = some resto) :
    leerMiles (antes ++ "mil".toList :: despues) = some (1000 * miles + resto) := by
  have hmem : "mil".toList ∈ antes ++ "mil".toList :: despues := List.mem_append_right _ List.mem_cons_self
  have hseguir : ∀ palabra ∈ antes, decide (palabra ≠ "mil".toList) = true := fun palabra hpalabra =>
    decide_eq_true (hantes palabra hpalabra)
  obtain ⟨htake, hdrop⟩ : (antes ++ "mil".toList :: despues).takeWhile (· ≠ "mil".toList) = antes ∧
      (antes ++ "mil".toList :: despues).dropWhile (· ≠ "mil".toList) = "mil".toList :: despues :=
    span_append_cons hseguir (decide_eq_false (not_not.mpr rfl))
  rw [leerMiles, if_pos hmem]
  dsimp only
  rw [htake, hdrop, hmiles, List.tail_cons, hresto]
  rfl

theorem leerMiles_sin (hsin : ∀ palabra ∈ despues, palabra ≠ "mil".toList) : leerMiles despues = leerCentenas despues := by
  rw [leerMiles, if_neg fun hmem => hsin _ hmem rfl]

/-- The thousands, before the words of the rest. -/
theorem leerMiles_parteMiles (hmiles : miles < 1000) (hresto : leerCentenas despues = some resto)
    (hsin : ∀ palabra ∈ despues, palabra ≠ "mil".toList ∧ esMillon palabra = false) :
    leerMiles ((parteMiles miles).flatMap palabras ++ despues) = some (1000 * miles + resto) ∧
      ∀ palabra ∈ (parteMiles miles).flatMap palabras ++ despues, esMillon palabra = false := by
  rcases Nat.eq_zero_or_pos miles with rfl | hpos
  · rw [show parteMiles 0 = [] from rfl, List.flatMap_nil, List.nil_append, leerMiles_sin fun p hp => (hsin p hp).1, hresto]
    exact ⟨by rw [Nat.mul_zero, Nat.zero_add], fun p hp => (hsin p hp).2⟩
  rcases eq_or_ne miles 1 with rfl | hone
  · have hpalabras : (parteMiles 1).flatMap palabras = ["mil".toList] := by decide
    have hlee : leerMiles ([] ++ "mil".toList :: despues) = some (1000 * 1 + resto) :=
      leerMiles_mil (fun _ hmem => absurd hmem List.not_mem_nil) rfl hresto
    rw [hpalabras, List.singleton_append]
    refine ⟨hlee, fun palabra hpalabra => ?_⟩
    rcases List.mem_cons.mp hpalabra with rfl | hpalabra
    · decide
    · exact (hsin palabra hpalabra).2
  · obtain ⟨-, hbreve⟩ := hastaMil_escribe hpos hmiles
    have hmil : palabras "mil".toList = ["mil".toList] := by decide
    have hpalabras : (parteMiles miles).flatMap palabras = palabras (apocope (hastaMil miles)) ++ ["mil".toList] := by
      rw [parteMiles, if_pos hpos, if_neg hone, List.flatMap_singleton, ← hmil]
      exact palabras_append _ _
    have hne : palabras (apocope (hastaMil miles)) ≠ [] := List.splitOn_ne_nil _ _
    rw [hpalabras, List.append_assoc, List.singleton_append]
    refine ⟨leerMiles_mil (fun p hp => (hbreve.sinMil p hp).1) (by rw [if_neg hne, hbreve.lee]) hresto,
      fun palabra hpalabra => ?_⟩
    rcases List.mem_append.mp hpalabra with hpalabra | hpalabra
    · exact (hbreve.sinMil palabra hpalabra).2
    · rcases List.mem_cons.mp hpalabra with rfl | hpalabra
      · decide
      · exact (hsin palabra hpalabra).2

/-- The words of the parts below a million. -/
theorem leerMiles_partesMenores (hmiles : miles < 1000) (hresto : resto < 1000) :
    leerMiles ((partesMenores miles resto).flatMap palabras) = some (1000 * miles + resto) ∧
      ∀ palabra ∈ (partesMenores miles resto).flatMap palabras, esMillon palabra = false := by
  rw [partesMenores, List.flatMap_append]
  rcases Nat.eq_zero_or_pos resto with rfl | hpos
  · exact leerMiles_parteMiles hmiles rfl nofun
  · obtain ⟨hescribe, -⟩ := hastaMil_escribe hpos hresto
    rw [if_pos hpos, List.flatMap_singleton]
    exact leerMiles_parteMiles hmiles hescribe.lee hescribe.sinMil

/-- **Below a million**, shortened before «millones». -/
theorem leerMiles_apocope (hmiles : miles < 1000) (hresto : resto < 1000) (hpos : 0 < miles ∨ 0 < resto) :
    leerMiles (palabras (apocope ([' '].intercalate (partesMenores miles resto)))) = some (1000 * miles + resto) ∧
      ∀ palabra ∈ palabras (apocope ([' '].intercalate (partesMenores miles resto))), esMillon palabra = false := by
  rcases Nat.eq_zero_or_pos resto with rfl | hrestoPos
  · -- the text ends in «mil» and is not shortened
    have hmilesPos : 0 < miles := by omega
    obtain ⟨parte, hparte⟩ : ∃ parte, partesMenores miles 0 = [parte ++ "mil".toList] := by
      rcases eq_or_ne miles 1 with rfl | hone
      · exact ⟨[], by decide⟩
      · refine ⟨apocope (hastaMil miles) ++ [' '], ?_⟩
        rw [partesMenores, parteMiles, if_pos hmilesPos, if_neg hone, if_neg (by decide), List.append_nil, List.append_assoc]
        rfl
    have hlast : ([' '].intercalate (partesMenores miles 0)).getLast? ≠ some 'o' := by
      rw [hparte, List.intercalate_singleton, List.getLast?_append, show "mil".toList.getLast? = some 'l' from rfl,
        Option.some_or]
      decide
    rw [apocope_of_getLast hlast, palabras_intercalate (by rw [hparte]; exact List.cons_ne_nil _ _)]
    exact leerMiles_partesMenores hmiles hresto
  · obtain ⟨-, hbreve⟩ := hastaMil_escribe hrestoPos hresto
    have hpalabras : palabras (apocope ([' '].intercalate (partesMenores miles resto))) =
        (parteMiles miles).flatMap palabras ++ palabras (apocope (hastaMil resto)) := by
      rw [partesMenores, if_pos hrestoPos]
      rcases hparte : parteMiles miles with _ | ⟨parte, _ | ⟨otra, mas⟩⟩
      · simp [List.intercalate_singleton]
      · rw [List.singleton_append, List.intercalate_cons_cons, List.intercalate_singleton, List.append_assoc,
          List.singleton_append, apocope_append, palabras_append, List.flatMap_singleton]
      · unfold parteMiles at hparte
        split at hparte
        · split at hparte <;> cases hparte
        · cases hparte
    rw [hpalabras]
    exact leerMiles_parteMiles hmiles hbreve.lee hbreve.sinMil

end Miles

/-! ## Any integer in range -/

section Letras

variable {n m : Int}

theorem enteroEnLetras_menor (hpos : 0 < n) (hlt : n < 1000000) : enteroEnLetras n =
    .ok ([' '].intercalate (partesMenores (n % 1000000 / 1000).toNat (n % 1000).toNat)) := by
  rw [enteroEnLetras, if_neg (by omega), if_neg (by omega)]
  have hmillones : ¬n / 1000000 > 0 := by omega
  simp only [if_neg hmillones, ok_bind, List.nil_append]
  rfl

/-- The words before «millón» or «millones», and those after. -/
theorem leerNumeral_millones {texto millon : Text} {antes despues : List Text} {millones resto : Nat}
    (hpalabras : palabras texto = antes ++ millon :: despues) (hantes : ∀ palabra ∈ antes, esMillon palabra = false)
    (hmillon : esMillon millon = true) (hmillones : leerMiles antes = some millones)
    (hresto : leerMiles despues = some resto) : leerNumeral texto = some (1000000 * millones + resto) := by
  have hcero : texto ≠ "cero".toList := by
    rintro rfl
    have hmem : millon ∈ palabras "cero".toList := hpalabras ▸ List.mem_append_right _ List.mem_cons_self
    have hword : millon = "cero".toList := List.mem_singleton.mp (show millon ∈ ["cero".toList] from hmem)
    rw [hword] at hmillon
    exact absurd hmillon (by decide)
  have hany : (antes ++ millon :: despues).any esMillon = true :=
    List.any_eq_true.mpr ⟨millon, List.mem_append_right _ List.mem_cons_self, hmillon⟩
  have hseguir : ∀ palabra ∈ antes, (!esMillon palabra) = true := fun palabra hpalabra => by
    rw [hantes palabra hpalabra]
    rfl
  have hstop : (!esMillon millon) = false := by
    rw [hmillon]
    rfl
  obtain ⟨htake, hdrop⟩ : (antes ++ millon :: despues).takeWhile (!esMillon ·) = antes ∧
      (antes ++ millon :: despues).dropWhile (!esMillon ·) = millon :: despues := span_append_cons hseguir hstop
  simp only [leerNumeral, if_neg hcero, hpalabras, hany, if_true, htake, hdrop, List.tail_cons, hmillones, hresto]
  rfl

/-- **What is written is read back.** -/
theorem leerNumeral_enteroEnLetras (hnonneg : 0 ≤ n) (hmax : n ≤ 999999999999) :
    ∃ texto, enteroEnLetras n = .ok texto ∧ leerNumeral texto = some n.toNat := by
  have hrange : ¬(n < 0 ∨ n > 999999999999) := by omega
  rcases eq_or_ne n 0 with rfl | hne
  · refine ⟨"cero".toList, ?_, rfl⟩
    rw [enteroEnLetras, if_neg hrange, if_pos rfl]
  obtain ⟨hmiles, hresto⟩ : (n % 1000000 / 1000).toNat < 1000 ∧ (n % 1000).toNat < 1000 := by omega
  obtain ⟨hmenores, hsin⟩ := leerMiles_partesMenores hmiles hresto
  have hsplit : 1000 * (n % 1000000 / 1000).toNat + (n % 1000).toNat = (n % 1000000).toNat := by omega
  rw [hsplit] at hmenores
  rcases Int.lt_or_le n 1000000 with hlt | hle
  · have hpartes : partesMenores (n % 1000000 / 1000).toNat (n % 1000).toNat ≠ [] := by
      intro hnil
      rw [hnil, List.flatMap_nil] at hmenores
      have hzero : (n % 1000000).toNat = 0 := (Option.some.inj hmenores).symm
      omega
    have hpalabras := palabras_intercalate hpartes
    refine ⟨_, enteroEnLetras_menor (by omega) hlt, ?_⟩
    generalize [' '].intercalate (partesMenores (n % 1000000 / 1000).toNat (n % 1000).toNat) = texto at hpalabras
    rw [← hpalabras] at hmenores hsin
    have hcero : texto ≠ "cero".toList := by
      rintro rfl
      rw [show leerMiles (palabras "cero".toList) = none by decide] at hmenores
      cases hmenores
    have hany : ¬(palabras texto).any esMillon = true := fun hany => by
      obtain ⟨palabra, hmem, hmillon⟩ := List.any_eq_true.mp hany
      rw [hsin palabra hmem] at hmillon
      cases hmillon
    rw [leerNumeral]
    simp only [if_neg hcero, if_neg hany]
    rw [hmenores, show n % 1000000 = n by omega]
  · have hpos : n / 1000000 > 0 := by omega
    have htotal : 1000000 * (n / 1000000).toNat + (n % 1000000).toNat = n.toNat := by omega
    rcases eq_or_ne (n / 1000000) 1 with hone | hmany
    · refine ⟨[' '].intercalate (["un millón".toList] ++
        partesMenores (n % 1000000 / 1000).toNat (n % 1000).toNat), ?_, ?_⟩
      · rw [enteroEnLetras, if_neg hrange, if_neg hne]
        simp only [if_pos hpos, if_pos hone, ok_bind]
        rfl
      · have hpalabras : palabras ([' '].intercalate (["un millón".toList] ++
            partesMenores (n % 1000000 / 1000).toNat (n % 1000).toNat)) = ["un".toList] ++ "millón".toList ::
              (partesMenores (n % 1000000 / 1000).toNat (n % 1000).toNat).flatMap palabras := by
          rw [List.singleton_append, palabras_intercalate (List.cons_ne_nil _ _), List.flatMap_cons]
          rfl
        rw [← htotal, hone]
        exact leerNumeral_millones hpalabras (by decide) (by decide) (by decide) hmenores
    · obtain ⟨hlow, hhigh⟩ : 0 < n / 1000000 ∧ n / 1000000 < 1000000 := by omega
      obtain ⟨hmiles', hresto'⟩ : (n / 1000000 % 1000000 / 1000).toNat < 1000 ∧ (n / 1000000 % 1000).toNat < 1000 := by omega
      obtain ⟨hlee, hsin'⟩ := leerMiles_apocope hmiles' hresto' (by omega)
      have hsplit' : 1000 * (n / 1000000 % 1000000 / 1000).toNat + (n / 1000000 % 1000).toNat = (n / 1000000).toNat := by
        omega
      have hmillones := enteroEnLetras_menor hlow hhigh
      rw [hsplit'] at hlee
      generalize [' '].intercalate (partesMenores (n / 1000000 % 1000000 / 1000).toNat (n / 1000000 % 1000).toNat) =
        millones at hlee hsin' hmillones
      refine ⟨[' '].intercalate ([apocope millones ++ " millones".toList] ++
        partesMenores (n % 1000000 / 1000).toNat (n % 1000).toNat), ?_, ?_⟩
      · rw [enteroEnLetras, if_neg hrange, if_neg hne]
        simp only [if_pos hpos, if_neg hmany, hmillones, Except.map, ok_bind]
        rfl
      · have hword : palabras (apocope millones ++ " millones".toList) = palabras (apocope millones) ++ ["millones".toList] :=
          palabras_append _ _
        have hpalabras : palabras ([' '].intercalate ([apocope millones ++ " millones".toList] ++
            partesMenores (n % 1000000 / 1000).toNat (n % 1000).toNat)) = palabras (apocope millones) ++ "millones".toList ::
              (partesMenores (n % 1000000 / 1000).toNat (n % 1000).toNat).flatMap palabras := by
          rw [List.singleton_append, palabras_intercalate (List.cons_ne_nil _ _), List.flatMap_cons, hword, List.append_assoc,
            List.singleton_append]
        rw [← htotal]
        exact leerNumeral_millones hpalabras hsin' (by decide) hlee hmenores

/-- **The amount in words is faithful**: every integer in range has a text, it is read back, and different integers have
different texts. -/
theorem enteroEnLetras_fiel (hn : 0 ≤ n ∧ n ≤ 999999999999) :
    (∃ texto, enteroEnLetras n = .ok texto ∧ leerNumeral texto = some n.toNat) ∧
      ∀ m, 0 ≤ m → m ≤ 999999999999 → n ≠ m → enteroEnLetras n ≠ enteroEnLetras m := by
  obtain ⟨texto, htexto, hlee⟩ := leerNumeral_enteroEnLetras hn.1 hn.2
  refine ⟨⟨texto, htexto, hlee⟩, fun m hm hmax hne heq => hne ?_⟩
  obtain ⟨otro, hotro, hlee'⟩ := leerNumeral_enteroEnLetras hm hmax
  obtain rfl : texto = otro := Except.ok.inj (htexto.symm.trans (heq.trans hotro))
  have hsame : n.toNat = m.toNat := Option.some.inj (hlee.symm.trans hlee')
  omega

end Letras

theorem enteroEnLetras_fiel_noventaYUno : (∃ texto, enteroEnLetras 91091 = .ok texto ∧ leerNumeral texto = some 91091) ∧
    enteroEnLetras 91091 ≠ enteroEnLetras 91000 :=
  have hfiel := enteroEnLetras_fiel (n := 91091) (by decide)
  ⟨hfiel.1, hfiel.2 91000 (by decide) (by decide) (by decide)⟩

end AtlasErp
