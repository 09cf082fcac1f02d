import AtlasErp.Lib.Chars
import Mathlib.Data.List.Nodup

/-! # XML: elements, attributes and text

What a conforming reader makes of a document that has elements, attributes, text and the predefined
entities.  A document with anything else (comments, sections, instructions, other references, carriage
returns) is not read.

- `read`: the reader, which goes through the document character by character;
- `Node.render`: the writer;
- `read_render`: what is written is read back. -/

namespace Lib.Xml

/-! ## Characters -/

/-- `Char` of XML 1.0. -/
def isXmlChar (c : Char) : Bool :=
  c = '\t' || c = '\n' || c = '\r' || (0x20 ≤ c.toNat && c.toNat ≤ 0xD7FF) ||
    (0xE000 ≤ c.toNat && c.toNat ≤ 0xFFFD) || 0x10000 ≤ c.toNat

/-- `S`. -/
def isSpace (c : Char) : Bool := c = ' ' || c = '\t' || c = '\n' || c = '\r'

/-- `NameStartChar`, within ASCII. -/
def isNameStart (c : Char) : Bool := c.isAlpha || c = '_' || c = ':'

/-- `NameChar`, within ASCII. -/
def isNameChar (c : Char) : Bool := isNameStart c || c.isDigit || c = '-' || c = '.'

/-- The predefined entities. -/
def entity : List Char → Option Char
  | ['a', 'm', 'p'] => some '&'
  | ['l', 't'] => some '<'
  | ['g', 't'] => some '>'
  | ['q', 'u', 'o', 't'] => some '\x22'
  | ['a', 'p', 'o', 's'] => some '\x27'
  | _ => none

/-! ## Documents -/

/-- A text, or an element with its attributes and what it contains. -/
inductive Node where
  | text (chars : List Char)
  | element (name : List Char) (attributes : List (List Char × List Char)) (children : List Node)

/-! ## The reader -/

/-- An element that is open, with what was read of it, the last first. -/
structure Frame where
  name : List Char
  attributes : List (List Char × List Char)
  children : List Node

/-- What is being read.  Names and texts that are not complete are kept backwards. -/
inductive Mode where
  | prolog
  | content (pending : List Char)
  | reference (pending name : List Char)
  /-- After `<`. -/
  | markup
  | startName (name : List Char)
  | tag (name : List Char) (attributes : List (List Char × List Char))
  | attribute (name : List Char) (attributes : List (List Char × List Char)) (attributeName : List Char)
  /-- After `=`. -/
  | equals (name : List Char) (attributes : List (List Char × List Char)) (attributeName : List Char)
  | value (name : List Char) (attributes : List (List Char × List Char)) (attributeName : List Char)
      (quote : Char) (chars : List Char)
  | afterValue (name : List Char) (attributes : List (List Char × List Char))
  /-- After `/` in a tag without content. -/
  | slash (name : List Char) (attributes : List (List Char × List Char))
  | endName (name : List Char)
  | endTag (name : List Char)
  | epilog (root : Node)

/-- The elements that are open, and what is being read. -/
structure Reader where
  stack : List Frame
  mode : Mode

/-- An element begins. -/
def openElement (stack : List Frame) (name : List Char) (attributes : List (List Char × List Char)) : Reader :=
  ⟨⟨name, attributes.reverse, []⟩ :: stack, .content []⟩

/-- A node is complete. -/
def addNode (stack : List Frame) (node : Node) : Reader :=
  match stack with
  | [] => ⟨[], .epilog node⟩
  | f :: fs => ⟨{ f with children := node :: f.children } :: fs, .content []⟩

/-- The text before a tag is complete. -/
def flushText (f : Frame) (pending : List Char) : Frame :=
  if pending = [] then f else { f with children := .text pending.reverse :: f.children }

/-- An element ends. -/
def closeElement (stack : List Frame) (name : List Char) : Option Reader :=
  match stack with
  | [] => none
  | f :: fs => if f.name = name then some (addNode fs (.element f.name f.attributes f.children.reverse)) else none

/-- The next character. -/
def step (r : Reader) (c : Char) : Option Reader :=
  if !isXmlChar c || c = '\r' then none
  else
    match r.mode with
    | .prolog => if c = '<' then some ⟨r.stack, .markup⟩ else if isSpace c then some r else none
    | .content pending =>
      match r.stack with
      | [] => none
      | f :: fs =>
        if c = '<' then some ⟨flushText f pending :: fs, .markup⟩
        else if c = '&' then some ⟨r.stack, .reference pending []⟩
        else if c = '>' ∧ pending.take 2 = [']', ']'] then none
        else some ⟨r.stack, .content (c :: pending)⟩
    | .reference pending name =>
      if c = ';' then (entity name.reverse).map fun d => ⟨r.stack, .content (d :: pending)⟩
      else if isNameChar c then some ⟨r.stack, .reference pending (c :: name)⟩ else none
    | .markup =>
      if c = '/' then some ⟨r.stack, .endName []⟩
      else if isNameStart c then some ⟨r.stack, .startName [c]⟩ else none
    | .startName name =>
      if c = '>' then some (openElement r.stack name.reverse [])
      else if c = '/' then some ⟨r.stack, .slash name.reverse []⟩
      else if isSpace c then some ⟨r.stack, .tag name.reverse []⟩
      else if isNameChar c then some ⟨r.stack, .startName (c :: name)⟩ else none
    | .tag name attributes =>
      if c = '>' then some (openElement r.stack name attributes)
      else if c = '/' then some ⟨r.stack, .slash name attributes⟩
      else if isSpace c then some r
      else if isNameStart c then some ⟨r.stack, .attribute name attributes [c]⟩ else none
    | .attribute name attributes attributeName =>
      if c = '=' then some ⟨r.stack, .equals name attributes attributeName.reverse⟩
      else if isNameChar c then some ⟨r.stack, .attribute name attributes (c :: attributeName)⟩ else none
    | .equals name attributes attributeName =>
      if c = '\x22' ∨ c = '\x27' then some ⟨r.stack, .value name attributes attributeName c []⟩ else none
    | .value name attributes attributeName quote chars =>
      if c = quote then
        if attributeName ∈ attributes.map (·.1) then none
        else some ⟨r.stack, .afterValue name ((attributeName, chars.reverse) :: attributes)⟩
      else if c = '<' ∨ c = '&' then none
      else some ⟨r.stack, .value name attributes attributeName quote ((if isSpace c then ' ' else c) :: chars)⟩
    | .afterValue name attributes =>
      if c = '>' then some (openElement r.stack name attributes)
      else if c = '/' then some ⟨r.stack, .slash name attributes⟩
      else if isSpace c then some ⟨r.stack, .tag name attributes⟩ else none
    | .slash name attributes =>
      if c = '>' then some (addNode r.stack (.element name attributes.reverse [])) else none
    | .endName name =>
      if c = '>' then closeElement r.stack name.reverse
      else if isSpace c then some ⟨r.stack, .endTag name.reverse⟩
      else if isNameChar c then some ⟨r.stack, .endName (c :: name)⟩ else none
    | .endTag name =>
      if c = '>' then closeElement r.stack name else if isSpace c then some r else none
    | .epilog _ => if isSpace c then some r else none

/-- A sequence of characters. -/
def run : List Char → Reader → Option Reader
  | [], r => some r
  | c :: cs, r => (step r c).bind (run cs)

/-- The declaration of a document. -/
def declaration : List Char := "<?xml version=\"1.0\" encoding=\"UTF-8\" standalone=\"yes\"?>".toList

/-- The document of a text, after its declaration. -/
def read (text : List Char) : Option Node :=
  if declaration.isPrefixOf text then
    match run (text.drop declaration.length) ⟨[], .prolog⟩ with
    | some ⟨[], .epilog root⟩ => some root
    | _ => none
  else none

/-! ## The writer -/

/-- A character of a text. -/
def escape (c : Char) : List Char :=
  if c = '&' then "&amp;".toList
  else if c = '<' then "&lt;".toList
  else if c = '>' then "&gt;".toList
  else if c = '\x22' then "&quot;".toList
  else if c = '\x27' then "&apos;".toList
  else [c]

def renderAttributes (attributes : List (List Char × List Char)) : List Char :=
  attributes.flatMap fun a => ' ' :: a.1 ++ ['=', '\x22'] ++ a.2 ++ ['\x22']

mutual

/-- The text of a node. -/
def Node.render : Node → List Char
  | .text chars => chars.flatMap escape
  | .element name attributes [] => '<' :: name ++ renderAttributes attributes ++ "/>".toList
  | .element name attributes (child :: children) =>
    '<' :: name ++ renderAttributes attributes ++ '>' :: renderAll (child :: children) ++
      "</".toList ++ name ++ ['>']

/-- The text of what an element contains. -/
def renderAll : List Node → List Char
  | [] => []
  | n :: ns => n.render ++ renderAll ns

end

/-! ## What can be written -/

/-- A name. -/
def IsName (name : List Char) : Prop :=
  ∃ c cs, name = c :: cs ∧ isNameStart c = true ∧ ∀ d ∈ cs, isNameChar d = true

instance : DecidablePred IsName
  | [] => isFalse fun ⟨_, _, h, _⟩ => by cases h
  | c :: cs => decidable_of_iff (isNameStart c = true ∧ ∀ d ∈ cs, isNameChar d = true)
      ⟨fun h => ⟨c, cs, rfl, h⟩, fun ⟨_, _, h, hchars⟩ => by
        obtain ⟨rfl, rfl⟩ := List.cons.inj h
        exact hchars⟩

/-- A character of a text. -/
def IsTextChar (c : Char) : Prop := isXmlChar c = true ∧ c ≠ '\r'

instance : DecidablePred IsTextChar := fun _ => inferInstanceAs (Decidable (_ ∧ _))

/-- A character that an attribute holds as it is. -/
def IsValueChar (c : Char) : Prop :=
  IsTextChar c ∧ c ≠ '<' ∧ c ≠ '&' ∧ c ≠ '\x22' ∧ (isSpace c = true → c = ' ')

instance : DecidablePred IsValueChar := fun _ => inferInstanceAs (Decidable (_ ∧ _))

/-- Attributes with names of their own. -/
def AttributesOk (attributes : List (List Char × List Char)) : Prop :=
  (attributes.map (·.1)).Nodup ∧ ∀ a ∈ attributes, IsName a.1 ∧ ∀ c ∈ a.2, IsValueChar c

instance : DecidablePred AttributesOk := fun _ => inferInstanceAs (Decidable (_ ∧ _))

mutual

/-- A node that can be written. -/
def Node.Ok : Node → Prop
  | .text chars => chars ≠ [] ∧ ∀ c ∈ chars, IsTextChar c
  | .element name attributes children => IsName name ∧ AttributesOk attributes ∧ AllOk false children

/-- Nodes that can be written one after the other: no two texts in a row. -/
def AllOk : Bool → List Node → Prop
  | _, [] => True
  | afterText, .text chars :: ns => afterText = false ∧ Node.Ok (.text chars) ∧ AllOk true ns
  | _, .element name attributes children :: ns => Node.Ok (.element name attributes children) ∧ AllOk false ns

end

/-! ## Reading what was written -/

theorem run_append (cs ds : List Char) (r : Reader) : run (cs ++ ds) r = (run cs r).bind (run ds) := by
  induction cs generalizing r with
  | nil => rfl
  | cons c cs ih =>
    simp only [List.cons_append, run]
    cases step r c with
    | none => rfl
    | some r' => exact ih r'

/-- The letters, by their codes. -/
theorem isAlpha_iff {c : Char} :
    c.isAlpha = true ↔ (65 ≤ c.toNat ∧ c.toNat ≤ 90) ∨ (97 ≤ c.toNat ∧ c.toNat ≤ 122) := by
  have halpha : c.isAlpha = (c.isUpper || c.isLower) := rfl
  have hupper : c.isUpper = decide (c.val ≥ 'A'.val ∧ c.val ≤ 'Z'.val) := rfl
  have hlower : c.isLower = (decide (c.val ≥ 'a'.val) && decide (c.val ≤ 'z'.val)) := rfl
  simp only [halpha, hupper, hlower, Bool.or_eq_true, Bool.and_eq_true, decide_eq_true_eq, ge_iff_le,
    UInt32.le_iff_toNat_le]
  exact Iff.rfl

theorem isXmlChar_of_nameChar {c : Char} (h : isNameChar c = true) : isXmlChar c = true := by
  have hrange : 45 ≤ c.toNat ∧ c.toNat ≤ 122 := by
    simp only [isNameChar, isNameStart, Bool.or_eq_true, decide_eq_true_eq, isAlpha_iff] at h
    rcases h with (((((h | h) | rfl) | rfl) | h) | rfl) | rfl
    · omega
    · omega
    · decide
    · decide
    · simp only [Char.isDigit, Bool.and_eq_true, decide_eq_true_eq, ge_iff_le, UInt32.le_iff_toNat_le] at h
      have hval : c.toNat = c.val.toNat := rfl
      have h0 : '0'.val.toNat = 48 := rfl
      have h9 : '9'.val.toNat = 57 := rfl
      omega
    · decide
    · decide
  simp only [isXmlChar, Bool.or_eq_true, Bool.and_eq_true, decide_eq_true_eq]
  omega

/-- What a character of a name is not. -/
theorem nameChar_ne {c : Char} (h : isNameChar c = true) {d : Char} (hd : isNameChar d = false) : c ≠ d := by
  rintro rfl
  rw [h] at hd
  cases hd

theorem nameChar_not_space {c : Char} (h : isNameChar c = true) : isSpace c = false := by
  simp only [isSpace, Bool.or_eq_false_iff, decide_eq_false_iff_not]
  exact ⟨⟨⟨nameChar_ne h rfl, nameChar_ne h rfl⟩, nameChar_ne h rfl⟩, nameChar_ne h rfl⟩

theorem nameChar_of_start {c : Char} (h : isNameStart c = true) : isNameChar c = true := by
  simp [isNameChar, h]

/-- The characters that are refused wherever they are. -/
theorem guard_nameChar {c : Char} (h : isNameChar c = true) : (!isXmlChar c || decide (c = '\r')) = false := by
  simp [isXmlChar_of_nameChar h, nameChar_ne h (d := '\r') rfl]

section Tags

variable {stack : List Frame}

theorem run_startName {cs : List Char} (h : ∀ c ∈ cs, isNameChar c = true) (acc : List Char) :
    run cs ⟨stack, .startName acc⟩ = some ⟨stack, .startName (cs.reverse ++ acc)⟩ := by
  induction cs generalizing acc with
  | nil => rfl
  | cons c cs ih =>
    have hc := h c List.mem_cons_self
    have hstep : step ⟨stack, .startName acc⟩ c = some ⟨stack, .startName (c :: acc)⟩ := by
      simp [step, guard_nameChar hc, hc, nameChar_ne hc (d := '>') rfl, nameChar_ne hc (d := '/') rfl,
        nameChar_not_space hc]
    rw [run, hstep, Option.bind_some, ih (fun d hd => h d (List.mem_cons_of_mem c hd))]
    simp

theorem run_endName {cs : List Char} (h : ∀ c ∈ cs, isNameChar c = true) (acc : List Char) :
    run cs ⟨stack, .endName acc⟩ = some ⟨stack, .endName (cs.reverse ++ acc)⟩ := by
  induction cs generalizing acc with
  | nil => rfl
  | cons c cs ih =>
    have hc := h c List.mem_cons_self
    have hstep : step ⟨stack, .endName acc⟩ c = some ⟨stack, .endName (c :: acc)⟩ := by
      simp [step, guard_nameChar hc, hc, nameChar_ne hc (d := '>') rfl, nameChar_not_space hc]
    rw [run, hstep, Option.bind_some, ih (fun d hd => h d (List.mem_cons_of_mem c hd))]
    simp

theorem run_attributeName {name : List Char} {attributes : List (List Char × List Char)} {cs : List Char}
    (h : ∀ c ∈ cs, isNameChar c = true) (acc : List Char) :
    run cs ⟨stack, .attribute name attributes acc⟩ =
      some ⟨stack, .attribute name attributes (cs.reverse ++ acc)⟩ := by
  induction cs generalizing acc with
  | nil => rfl
  | cons c cs ih =>
    have hc := h c List.mem_cons_self
    have hstep : step ⟨stack, .attribute name attributes acc⟩ c =
        some ⟨stack, .attribute name attributes (c :: acc)⟩ := by
      simp [step, guard_nameChar hc, hc, nameChar_ne hc (d := '=') rfl]
    rw [run, hstep, Option.bind_some, ih (fun d hd => h d (List.mem_cons_of_mem c hd))]
    simp

theorem run_value {name attributeName : List Char} {attributes : List (List Char × List Char)} {cs : List Char}
    (h : ∀ c ∈ cs, IsValueChar c) (acc : List Char) :
    run cs ⟨stack, .value name attributes attributeName '\x22' acc⟩ =
      some ⟨stack, .value name attributes attributeName '\x22' (cs.reverse ++ acc)⟩ := by
  induction cs generalizing acc with
  | nil => rfl
  | cons c cs ih =>
    obtain ⟨⟨hxml, hreturn⟩, hlt, hamp, hquote, hspace⟩ := h c List.mem_cons_self
    have hkept : (if isSpace c = true then ' ' else c) = c := by
      split
      · rename_i hc
        exact (hspace hc).symm
      · rfl
    have hstep : step ⟨stack, .value name attributes attributeName '\x22' acc⟩ c =
        some ⟨stack, .value name attributes attributeName '\x22' (c :: acc)⟩ := by
      simp [step, hxml, hreturn, hlt, hamp, hquote, hkept]
    rw [run, hstep, Option.bind_some, ih (fun d hd => h d (List.mem_cons_of_mem c hd))]
    simp

/-- The attributes of a tag. -/
theorem run_renderAttributes {name : List Char} {attributes : List (List Char × List Char)}
    (acc : List (List Char × List Char)) (hnames : ((acc.reverse ++ attributes).map (·.1)).Nodup)
    (hok : ∀ a ∈ attributes, IsName a.1 ∧ ∀ c ∈ a.2, IsValueChar c) :
    run (renderAttributes attributes) ⟨stack, .afterValue name acc⟩ =
      some ⟨stack, .afterValue name (attributes.reverse ++ acc)⟩ := by
  induction attributes generalizing acc with
  | nil => rfl
  | cons a attributes ih =>
    obtain ⟨⟨c, cs, hname, hstart, hcs⟩, hvalue⟩ := hok a List.mem_cons_self
    have hnew : a.1 ∉ acc.map (·.1) := by
      intro hmem
      rw [List.map_append, List.nodup_append'] at hnames
      exact hnames.2.2 (by simpa using hmem) List.mem_cons_self
    have hc := nameChar_of_start hstart
    have hone : run (' ' :: a.1 ++ ['=', '\x22'] ++ a.2 ++ ['\x22']) ⟨stack, .afterValue name acc⟩ =
        some ⟨stack, .afterValue name (a :: acc)⟩ := by
      have hspace : step ⟨stack, .afterValue name acc⟩ ' ' = some ⟨stack, .tag name acc⟩ := rfl
      have hfirst : step ⟨stack, .tag name acc⟩ c = some ⟨stack, .attribute name acc [c]⟩ := by
        simp [step, guard_nameChar hc, hstart, nameChar_ne hc (d := '>') rfl, nameChar_ne hc (d := '/') rfl,
          nameChar_not_space hc]
      have hequals : step ⟨stack, .attribute name acc a.1.reverse⟩ '=' =
          some ⟨stack, .equals name acc a.1.reverse.reverse⟩ := rfl
      rw [List.reverse_reverse] at hequals
      have hopen : step ⟨stack, .equals name acc a.1⟩ '\x22' = some ⟨stack, .value name acc a.1 '\x22' []⟩ := rfl
      have hclose : step ⟨stack, .value name acc a.1 '\x22' a.2.reverse⟩ '\x22' =
          some ⟨stack, .afterValue name (a :: acc)⟩ := by
        simp [step, hnew, isXmlChar]
      have hread : run a.1 ⟨stack, .tag name acc⟩ = some ⟨stack, .attribute name acc a.1.reverse⟩ := by
        rw [hname, run, hfirst, Option.bind_some, run_attributeName hcs, List.reverse_cons]
      have hvalues := @run_value stack name a.1 acc _ hvalue []
      rw [List.append_nil] at hvalues
      simp only [List.cons_append, run_append, run, hspace, Option.bind_some, hread, hequals, hopen, hvalues, hclose]
    rw [renderAttributes, List.flatMap_cons, run_append, hone, Option.bind_some, ← renderAttributes, ih]
    · simp
    · simpa using hnames
    · exact fun b hb => hok b (List.mem_cons_of_mem a hb)

/-- What follows a name and what follows an attribute are read alike. -/
theorem step_startName (name : List Char) {c : Char} (h : c = ' ' ∨ c = '>' ∨ c = '/') :
    step ⟨stack, .startName name⟩ c = step ⟨stack, .afterValue name.reverse []⟩ c := by
  rcases h with rfl | rfl | rfl <;> rfl

/-- A name and its attributes, before the end of the tag. -/
theorem run_tag {name : List Char} (hname : IsName name) {attributes : List (List Char × List Char)}
    (hok : AttributesOk attributes) {c : Char} (hc : c = '>' ∨ c = '/') (rest : List Char) :
    run (name ++ renderAttributes attributes ++ c :: rest) ⟨stack, .markup⟩ =
      run (c :: rest) ⟨stack, .afterValue name attributes.reverse⟩ := by
  obtain ⟨d, ds, rfl, hstart, hds⟩ := hname
  have hd := nameChar_of_start hstart
  have hfirst : step ⟨stack, .markup⟩ d = some ⟨stack, .startName [d]⟩ := by
    simp [step, guard_nameChar hd, hstart, nameChar_ne hd (d := '/') rfl]
  have hread : run (d :: ds) ⟨stack, .markup⟩ = some ⟨stack, .startName (d :: ds).reverse⟩ := by
    rw [run, hfirst, Option.bind_some, run_startName hds, List.reverse_cons]
  have hattributes := @run_renderAttributes stack (d :: ds) _ [] (by simpa using hok.1) hok.2
  rw [List.append_nil] at hattributes
  rw [List.append_assoc, run_append, hread, Option.bind_some]
  cases attributes with
  | nil =>
    have hstep := @step_startName stack (d :: ds).reverse _ (.inr hc)
    rw [List.reverse_reverse] at hstep
    simp only [renderAttributes, List.flatMap_nil, List.nil_append, List.reverse_nil, run, hstep]
  | cons a attributes =>
    have hstep := @step_startName stack (d :: ds).reverse _ (.inl (rfl : ' ' = ' '))
    rw [List.reverse_reverse] at hstep
    have hsame : ∀ cs, run (' ' :: cs) ⟨stack, .startName (d :: ds).reverse⟩ =
        run (' ' :: cs) ⟨stack, .afterValue (d :: ds) []⟩ := fun cs => by rw [run, run, hstep]
    have hhead : ∃ cs, renderAttributes (a :: attributes) = ' ' :: cs := ⟨_, rfl⟩
    obtain ⟨cs, hcs⟩ := hhead
    rw [hcs] at hattributes ⊢
    rw [List.cons_append, hsame, ← List.cons_append, run_append, hattributes, Option.bind_some]

/-- An element without content. -/
theorem run_emptyElement {name : List Char} (hname : IsName name) {attributes : List (List Char × List Char)}
    (hok : AttributesOk attributes) :
    run (name ++ renderAttributes attributes ++ "/>".toList) ⟨stack, .markup⟩ =
      some (addNode stack (.element name attributes [])) := by
  have htag := @run_tag stack _ hname _ hok _ (.inr rfl) ['>']
  have hslash : step ⟨stack, .afterValue name attributes.reverse⟩ '/' =
      some ⟨stack, .slash name attributes.reverse⟩ := rfl
  have hend : step ⟨stack, .slash name attributes.reverse⟩ '>' =
      some (addNode stack (.element name attributes.reverse.reverse [])) := rfl
  rw [List.reverse_reverse] at hend
  rw [show "/>".toList = ['/', '>'] from rfl, htag]
  simp only [run, hslash, hend, Option.bind_some]

/-- An end tag. -/
theorem run_endElement {f : Frame} (hname : IsName f.name) (pending : List Char) :
    run ("</".toList ++ f.name ++ ['>']) ⟨f :: stack, .content pending⟩ =
      some (addNode stack (.element f.name f.attributes (flushText f pending).children.reverse)) := by
  obtain ⟨d, ds, hds, hstart, hchars⟩ := hname
  have hall : ∀ c ∈ f.name, isNameChar c = true := by
    rw [hds]
    intro c hc
    rcases List.mem_cons.mp hc with rfl | hc
    · exact nameChar_of_start hstart
    · exact hchars c hc
  have hopen : step ⟨f :: stack, .content pending⟩ '<' = some ⟨flushText f pending :: stack, .markup⟩ := rfl
  have hslash : step ⟨flushText f pending :: stack, .markup⟩ '/' =
      some ⟨flushText f pending :: stack, .endName []⟩ := rfl
  have hread := @run_endName (flushText f pending :: stack) _ hall []
  rw [List.append_nil] at hread
  have hsame : (flushText f pending).name = f.name ∧ (flushText f pending).attributes = f.attributes := by
    unfold flushText
    split <;> exact ⟨rfl, rfl⟩
  have hclose : step ⟨flushText f pending :: stack, .endName f.name.reverse⟩ '>' =
      closeElement (flushText f pending :: stack) f.name.reverse.reverse := rfl
  rw [List.reverse_reverse, closeElement, if_pos hsame.1, hsame.1, hsame.2] at hclose
  rw [show "</".toList = ['<', '/'] from rfl]
  simp only [List.cons_append, List.nil_append, run_append, run, hopen, hslash, hread, hclose, Option.bind_some]

end Tags

/-! ## Texts -/

section Texts

variable {f : Frame} {stack : List Frame}

theorem run_escape {c : Char} (h : IsTextChar c) (pending : List Char) :
    run (escape c) ⟨f :: stack, .content pending⟩ = some ⟨f :: stack, .content (c :: pending)⟩ := by
  obtain ⟨hxml, hreturn⟩ := h
  unfold escape
  by_cases hamp : c = '&'
  · subst hamp
    rfl
  by_cases hlt : c = '<'
  · subst hlt
    rfl
  by_cases hgt : c = '>'
  · subst hgt
    rfl
  by_cases hquot : c = '\x22'
  · subst hquot
    rfl
  by_cases hapos : c = '\x27'
  · subst hapos
    rfl
  simp [hamp, hlt, hgt, hquot, hapos, run, step, hxml, hreturn]

theorem run_text {chars : List Char} (h : ∀ c ∈ chars, IsTextChar c) (pending : List Char) :
    run (chars.flatMap escape) ⟨f :: stack, .content pending⟩ =
      some ⟨f :: stack, .content (chars.reverse ++ pending)⟩ := by
  induction chars generalizing pending with
  | nil => rfl
  | cons c chars ih =>
    rw [List.flatMap_cons, run_append, run_escape (h c List.mem_cons_self), Option.bind_some,
      ih fun d hd => h d (List.mem_cons_of_mem c hd)]
    simp

end Texts

/-! ## Documents, read back -/

theorem flushText_eq (f : Frame) (pending : List Char) :
    flushText f pending = { f with children := (flushText f pending).children } := by
  unfold flushText
  split <;> rfl

/-- What an element contains is read back; its last text may be pending. -/
def ReadBack (nodes : List Node) : Prop :=
  ∀ afterText, AllOk afterText nodes → ∀ (f : Frame) (stack : List Frame) (pending : List Char),
    (afterText = false → pending = []) →
    ∃ f' pending', run (renderAll nodes) ⟨f :: stack, .content pending⟩ = some ⟨f' :: stack, .content pending'⟩ ∧
      flushText f' pending' = { f with children := nodes.reverse ++ (flushText f pending).children }

/-- **An element** is read back when its content is. -/
theorem run_element {name : List Char} {attributes : List (List Char × List Char)} {children : List Node}
    (h : (Node.element name attributes children).Ok) (hcontent : ReadBack children) (stack : List Frame) :
    ∃ body, (Node.element name attributes children).render = '<' :: body ∧
      run body ⟨stack, .markup⟩ = some (addNode stack (.element name attributes children)) := by
  obtain ⟨hname, hattributes, hchildren⟩ := h
  cases children with
  | nil => exact ⟨_, rfl, run_emptyElement hname hattributes⟩
  | cons child children =>
    refine ⟨name ++ renderAttributes attributes ++ '>' :: (renderAll (child :: children) ++
      ("</".toList ++ name ++ ['>'])), by simp [Node.render], ?_⟩
    obtain ⟨f, pending, hrun, hflush⟩ := hcontent false hchildren ⟨name, attributes, []⟩ stack [] fun _ => rfl
    have hopen : step ⟨stack, .afterValue name attributes.reverse⟩ '>' =
        some (openElement stack name attributes.reverse) := rfl
    rw [openElement, List.reverse_reverse] at hopen
    rw [flushText_eq, Frame.mk.injEq] at hflush
    obtain ⟨rfl, rfl, hread⟩ := hflush
    rw [run_tag hname hattributes (.inl rfl), run, hopen, Option.bind_some, run_append, hrun, Option.bind_some,
      run_endElement hname, hread]
    simp [flushText]

theorem readBack : (nodes : List Node) → ReadBack nodes
  | [] => fun _ _ f _ pending _ => ⟨f, pending, rfl, flushText_eq f pending⟩
  | .text chars :: nodes => by
    intro afterText h f stack pending hpending
    obtain ⟨hafter, ⟨hne, hchars⟩, hrest⟩ := h
    obtain rfl := hpending hafter
    obtain ⟨f', pending', hrun, hflush⟩ := readBack nodes true hrest f stack chars.reverse nofun
    refine ⟨f', pending', ?_, ?_⟩
    · rw [renderAll, Node.render, run_append, run_text hchars, Option.bind_some, List.append_nil, hrun]
    · rw [hflush]
      simp [flushText, hne]
  | .element name attributes children :: nodes => by
    intro afterText h f stack pending hpending
    obtain ⟨hok, hrest⟩ := h
    obtain ⟨body, hrender, hbody⟩ := run_element hok (readBack children) (flushText f pending :: stack)
    have hopen : step ⟨f :: stack, .content pending⟩ '<' = some ⟨flushText f pending :: stack, .markup⟩ := rfl
    obtain ⟨f', pending', hrun, hflush⟩ := readBack nodes false hrest
      { flushText f pending with
        children := .element name attributes children :: (flushText f pending).children } stack [] fun _ => rfl
    refine ⟨f', pending', ?_, ?_⟩
    · rw [renderAll, hrender, List.cons_append, run, hopen, Option.bind_some, run_append, hbody, Option.bind_some]
      exact hrun
    · rw [hflush, flushText_eq f pending]
      simp [flushText]

/-- **Round trip**: an element that was written after the declaration is read back. -/
theorem read_render {name : List Char} {attributes : List (List Char × List Char)} {children : List Node}
    (h : (Node.element name attributes children).Ok) :
    read (declaration ++ '\n' :: (Node.element name attributes children).render) =
      some (.element name attributes children) := by
  obtain ⟨body, hrender, hbody⟩ := run_element h (readBack children) []
  have hline : step ⟨[], .prolog⟩ '\n' = some ⟨[], .prolog⟩ := rfl
  have hopen : step ⟨[], .prolog⟩ '<' = some ⟨[], .markup⟩ := rfl
  rw [read, if_pos (List.isPrefixOf_iff_prefix.mpr (List.prefix_append _ _)), List.drop_left, hrender, run, hline,
    Option.bind_some, run, hopen, Option.bind_some, hbody]
  rfl

end Lib.Xml
