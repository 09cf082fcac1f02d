import AtlasErp.Lib.Hex
import AtlasErp.Money.NumberTexts

/-! # The signature of a delivery

The header of a delivery is `t=<seconds>,v1=<digest>`; the receiver computes the digest of the raw body again, at the
time of the header, and refuses it out of a window.

- `signOutboxBody`, `verifyOutboxSignature`: both sides, over any `HMAC-SHA256`;
- `LastPart`: what a header says last of a key;
- `verifyOutboxSignature_iff`: **what is accepted**, of all the texts that a header may be;
- `verifyOutboxSignature_exact`: with it, what was signed is accepted, and for nothing else. -/

namespace AtlasErp

open Lib

/-! ## Signing and verifying -/

/-- What `createHmac('sha256', secret).update(text).digest()` returns. -/
structure Digest where
  bytes : List UInt8
  length : bytes.length = 32

/-- What is signed: the time, a point and the raw body. -/
def signedText (timestamp : Double) (rawBody : Text) : Text := timestamp.toText ++ '.' :: rawBody

/-- A part of a header, trimmed and split at its first `=`. -/
def headerPart (part : Text) : Text × Text :=
  match (trim part).splitOn '=' with
  | [] => ([], [])
  | key :: rest => (key, ['='].intercalate rest)

/-- The pairs of `parts`; a later one replaces an earlier one with its key. -/
def headerParts (header : Text) : List (Text × Text) := (header.splitOn ',').map headerPart

/-- `parts.get(key)`. -/
def getPart (parts : List (Text × Text)) (key : Text) : Option Text := parts.reverse.lookup key

/-- `Number(text)`, also of `undefined`. -/
def numberOfPart : Option Text → Double
  | some text => numberOfText text
  | none => .nan

/-- `Number.isInteger`. -/
def Double.isInteger : Double → Bool
  | .finite x => x.den = 1
  | _ => false

/-- `/^[0-9a-f]{64}$/`. -/
def isDigestText (text : Text) : Bool := text.length = 64 ∧ text.all Hex.isLower

/-- The input of the verification. -/
structure SignatureInput where
  secret : Text
  header : Option Text
  rawBody : Text
  nowSeconds : Option Double
  toleranceSeconds : Option Double

/-- `DEFAULT_SIGNATURE_TOLERANCE_SECONDS`. -/
def DEFAULT_SIGNATURE_TOLERANCE_SECONDS : Double := .finite 300

def SignatureInput.now (input : SignatureInput) (clock : Double) : Double := input.nowSeconds.getD clock

def SignatureInput.tolerance (input : SignatureInput) : Double :=
  input.toleranceSeconds.getD DEFAULT_SIGNATURE_TOLERANCE_SECONDS

section Signature

variable (hmac : Text → Text → Digest)

def signOutboxBody (secret rawBody : Text) (timestampSeconds : Double) : Text :=
  let digest := Hex.text (hmac secret (signedText timestampSeconds rawBody)).bytes
  "t=".toList ++ timestampSeconds.toText ++ ",v1=".toList ++ digest

/-- With the clock in whole seconds. -/
def verifyOutboxSignature (clock : Double) (input : SignatureInput) : Bool :=
  match input.header with
  | none => false
  | some [] => false
  | some header =>
    let parts := headerParts header
    let timestamp := numberOfPart (getPart parts "t".toList)
    match getPart parts "v1".toList with
    | none => false
    | some received =>
      if timestamp.isInteger = false ∨ isDigestText received = false then false
      else if Double.lt input.tolerance ((input.now clock).sub timestamp).abs then false
      else (hmac input.secret (signedText timestamp input.rawBody)).bytes = Hex.bytes received

end Signature

/-! ## Parts -/

/-- A part of a header that says something of a key, with spaces around it; a key alone says nothing. -/
def Says (part key value : Text) : Prop := trim part = key ++ '=' :: value ∨ trim part = key ∧ value = []

/-- What the header, split at commas, says last of a key. -/
def LastPart (header key value : Text) : Prop :=
  ∃ before part after, header.splitOn ',' = before ++ part :: after ∧ Says part key value ∧
    ∀ other ∈ after, ∀ value', ¬Says other key value'

section Parts

variable {part header key value : Text}

theorem headerPart_of_mem {rest : Text} (h : trim part = key ++ '=' :: rest) (hkey : '=' ∉ key) :
    headerPart part = (key, rest) := by
  rw [headerPart, h, List.splitOn_append_cons_self_of_not_mem hkey]
  simp only [List.intercalate_splitOn]

theorem headerPart_of_not_mem (h : '=' ∉ trim part) : headerPart part = (trim part, []) := by
  rw [headerPart, List.splitOn_eq_singleton h]
  rfl

/-- A part is read as what it says. -/
theorem headerPart_eq_iff (hkey : '=' ∉ key) : headerPart part = (key, value) ↔ Says part key value := by
  constructor
  · intro h
    by_cases hmem : '=' ∈ trim part
    · obtain ⟨first, rest, hsplit, hfirst⟩ := List.eq_append_cons_of_mem hmem
      rw [headerPart_of_mem hsplit hfirst] at h
      cases h
      exact .inl hsplit
    · rw [headerPart_of_not_mem hmem] at h
      cases h
      exact .inr ⟨rfl, rfl⟩
  · rintro (h | ⟨rfl, rfl⟩)
    · exact headerPart_of_mem h hkey
    · exact headerPart_of_not_mem hkey

/-- A key has the value that the last part with it says. -/
theorem getPart_eq_some_iff (hkey : '=' ∉ key) :
    getPart (headerParts header) key = some value ↔ LastPart header key value := by
  have hother : ∀ other, (key != (headerPart other).1) = true ↔ ∀ value', ¬Says other key value' := by
    intro other
    simp only [← headerPart_eq_iff hkey, bne_iff_ne]
    constructor
    · intro h value' heq
      exact h (by rw [heq])
    · rintro h rfl
      exact h _ rfl
  simp only [getPart, headerParts, List.lookup_eq_some_iff, ← List.map_reverse]
  constructor
  · rintro ⟨after, before, hsplit, hafter⟩
    obtain ⟨last, parts, hparts, rfl, hrest⟩ := List.map_eq_append_iff.mp hsplit
    obtain ⟨part, first, rfl, hpart, -⟩ := List.map_eq_cons_iff.mp hrest
    refine ⟨first.reverse, part, last.reverse, ?_, (headerPart_eq_iff hkey).mp hpart, fun other hmem => ?_⟩
    · rw [← List.reverse_reverse (header.splitOn ','), hparts]
      simp
    · exact (hother other).mp (hafter _ (List.mem_map_of_mem (List.mem_reverse.mp hmem)))
  · rintro ⟨before, part, after, hsplit, hpart, hafter⟩
    refine ⟨after.reverse.map headerPart, before.reverse.map headerPart, ?_, ?_⟩
    · rw [hsplit, ← (headerPart_eq_iff hkey).mpr hpart]
      simp
    · rintro _ hmem
      obtain ⟨other, hother', rfl⟩ := List.mem_map.mp hmem
      exact (hother other).mpr (hafter other (List.mem_reverse.mp hother'))

end Parts

/-! ## What is accepted -/

/-- The time of a header is not further from the clock than the tolerance. -/
def Near (now tolerance : Double) (timestamp : Int) : Prop :=
  Double.lt tolerance (now.sub (.finite timestamp)).abs = false

/-- Whole seconds and a tolerance below 2^53 are compared exactly. -/
theorem near_iff {now timestamp : Int} {tolerance : ℚ} (h : tolerance < 2 ^ 53) :
    Near (.finite now) (.finite tolerance) timestamp ↔ |(now : ℚ) - timestamp| ≤ tolerance := by
  rw [Near, ← Bool.not_eq_true, Double.lt_abs_sub h, not_lt]

theorem isInteger_iff {x : Double} : x.isInteger = true ↔ ∃ n : Int, x = .finite n := by
  cases x with
  | finite value =>
    simp only [Double.isInteger, decide_eq_true_eq, Double.finite.injEq]
    constructor
    · exact fun h => ⟨value.num, (Rat.coe_int_num_of_den_eq_one h).symm⟩
    · rintro ⟨n, rfl⟩
      rfl
  | infinite | nan => simp [Double.isInteger]

section Accepted

variable {hmac : Text → Text → Digest} {clock : Double} {input : SignatureInput}

/-- The digest that a header has to carry, at a time. -/
def digestText (hmac : Text → Text → Digest) (secret rawBody : Text) (timestamp : Int) : Text :=
  Hex.text (hmac secret (signedText (.finite timestamp) rawBody)).bytes

theorem digestText_isDigestText (hmac : Text → Text → Digest) (secret rawBody : Text) (timestamp : Int) :
    isDigestText (digestText hmac secret rawBody timestamp) = true := by
  refine decide_eq_true ⟨?_, List.all_eq_true.mpr (Hex.isLower_text _)⟩
  rw [digestText, Hex.length_text, Digest.length]

/-- The last `t` of the header is a whole number near the clock, and its last `v1` the digest of that number, a point and
the raw body. -/
def Authentic (hmac : Text → Text → Digest) (clock : Double) (input : SignatureInput) : Prop :=
  ∃ header ∈ input.header, ∃ (timestamp : Int) (t : Text), LastPart header "t".toList t ∧
    numberOfText t = .finite timestamp ∧ Near (input.now clock) input.tolerance timestamp ∧
    LastPart header "v1".toList (digestText hmac input.secret input.rawBody timestamp)

/-- **What is accepted** is authentic, and all that is authentic is accepted. -/
theorem verifyOutboxSignature_iff : verifyOutboxSignature hmac clock input = true ↔ Authentic hmac clock input := by
  have htkey : '=' ∉ "t".toList := by decide
  have hvkey : '=' ∉ "v1".toList := by decide
  simp only [Authentic, ← getPart_eq_some_iff htkey, ← getPart_eq_some_iff hvkey]
  unfold verifyOutboxSignature
  cases hheader : input.header with
  | none => simp
  | some header =>
    have hdigest : ∀ (timestamp : Int) received, isDigestText received = true →
        ((hmac input.secret (signedText (.finite timestamp) input.rawBody)).bytes = Hex.bytes received ↔
          received = digestText hmac input.secret input.rawBody timestamp) := by
      intro timestamp received htext
      obtain ⟨hlength, hlower⟩ := of_decide_eq_true htext
      rw [eq_comm, Hex.bytes_eq_iff (List.all_eq_true.mp hlower) (by rw [hlength, Digest.length])]
      rfl
    simp only [Option.mem_some_iff, exists_eq_left']
    cases header with
    | nil =>
      have hempty : getPart (headerParts []) "t".toList = none := by decide
      refine iff_of_false Bool.false_ne_true ?_
      rintro ⟨timestamp, t, ht, -⟩
      rw [hempty] at ht
      cases ht
    | cons c cs =>
      dsimp only
      generalize headerParts (c :: cs) = parts
      cases hv : getPart parts "v1".toList with
      | none => simp
      | some received =>
        dsimp only
        constructor
        · intro h
          split at h
          · cases h
          next hform =>
            rw [not_or, Bool.not_eq_false, Bool.not_eq_false] at hform
            obtain ⟨timestamp, htimestamp⟩ := isInteger_iff.mp hform.1
            rw [htimestamp] at h
            split at h
            · cases h
            next hnear =>
              cases ht : getPart parts "t".toList with
              | none =>
                rw [ht] at htimestamp
                cases htimestamp
              | some t =>
                rw [ht] at htimestamp
                exact ⟨timestamp, t, rfl, htimestamp, Bool.eq_false_of_not_eq_true hnear,
                  congrArg some ((hdigest timestamp received hform.2).mp (of_decide_eq_true h))⟩
        · rintro ⟨timestamp, t, ht, htimestamp, hnear, hreceived⟩
          obtain rfl := Option.some.inj hreceived
          have hinteger : (Double.finite timestamp).isInteger = true := isInteger_iff.mpr ⟨timestamp, rfl⟩
          have htext := digestText_isDigestText hmac input.secret input.rawBody timestamp
          have hnumber : numberOfPart (some t) = .finite timestamp := htimestamp
          rw [ht, hnumber, hinteger, htext, if_neg (by decide), hnear, if_neg (by decide)]
          exact decide_eq_true ((hdigest timestamp _ htext).mpr rfl)

end Accepted

/-! ## What was signed -/

section Signed

variable (hmac : Text → Text → Digest) (secret rawBody : Text) {timestamp : Int}

/-- What a header says last of a key is one text. -/
theorem LastPart.unique {header key value value' : Text} (hkey : '=' ∉ key) (h : LastPart header key value)
    (h' : LastPart header key value') : value = value' := by
  rw [← getPart_eq_some_iff hkey] at h h'
  exact Option.some.inj (h.symm.trans h')

/-- The two parts of a header that was signed. -/
theorem splitOn_signOutboxBody (hdouble : Double.nearest timestamp = .finite timestamp) :
    (signOutboxBody hmac secret rawBody (.finite timestamp)).splitOn ',' =
      ["t=".toList ++ (Double.finite timestamp).toText, "v1=".toList ++ digestText hmac secret rawBody timestamp] := by
  have htime : ',' ∉ (Double.finite timestamp).toText := fun hmem =>
    Double.toText_chars hdouble (P := (· ≠ ',')) (by rintro _ h rfl; exact absurd h (by decide)) (by decide) _ hmem rfl
  have hdigest : ',' ∉ digestText hmac secret rawBody timestamp := fun hmem =>
    absurd (Hex.isLower_text _ _ hmem) (by decide)
  have hjoin : signOutboxBody hmac secret rawBody (.finite timestamp) =
      [','].intercalate ["t=".toList ++ (Double.finite timestamp).toText,
        "v1=".toList ++ digestText hmac secret rawBody timestamp] := by
    simp [signOutboxBody, digestText, List.intercalate]
  rw [hjoin]
  refine List.splitOn_intercalate ',' ?_ (by simp)
  intro part hpart
  simp only [List.mem_cons, List.not_mem_nil, or_false] at hpart
  rcases hpart with rfl | rfl
  · simpa using htime
  · simpa using hdigest

/-- No space is in it. -/
theorem trim_signed (hdouble : Double.nearest timestamp = .finite timestamp) :
    trim ("t=".toList ++ (Double.finite timestamp).toText) = "t=".toList ++ (Double.finite timestamp).toText ∧
      trim ("v1=".toList ++ digestText hmac secret rawBody timestamp) =
        "v1=".toList ++ digestText hmac secret rawBody timestamp := by
  have htime : ∀ c ∈ (Double.finite timestamp).toText, isWhiteSpace c = false :=
    Double.toText_chars hdouble (fun _ => isWhiteSpace_of_isDigit) (by decide)
  have hdigest : ∀ c ∈ digestText hmac secret rawBody timestamp, isWhiteSpace c = false := by
    intro c hc
    obtain ⟨d, hd, -, rfl⟩ := Hex.exists_of_isLower (Hex.isLower_text _ c hc)
    have hall : ∀ d < 16, isWhiteSpace (Nat.digitChar d) = false := by decide
    exact hall d hd
  exact ⟨trim_of_forall (List.forall_mem_append.mpr ⟨by decide, htime⟩),
    trim_of_forall (List.forall_mem_append.mpr ⟨by decide, hdigest⟩)⟩

/-- What a header that was signed says. -/
theorem lastPart_signOutboxBody (hdouble : Double.nearest timestamp = .finite timestamp) :
    LastPart (signOutboxBody hmac secret rawBody (.finite timestamp)) "t".toList (Double.finite timestamp).toText ∧
      LastPart (signOutboxBody hmac secret rawBody (.finite timestamp)) "v1".toList
        (digestText hmac secret rawBody timestamp) := by
  obtain ⟨htime, hdigest⟩ := trim_signed hmac secret rawBody hdouble
  have hsplit := splitOn_signOutboxBody hmac secret rawBody hdouble
  refine ⟨⟨[], _, _, hsplit, .inl htime, ?_⟩, ⟨[_], _, [], hsplit, .inl hdigest, by simp⟩⟩
  intro other hother value'
  obtain rfl := List.mem_singleton.mp hother
  rw [Says, hdigest]
  simp

/-- The text that is signed stands for one time and one body, when the time has no point in its text. -/
theorem signedText_injective {timestamp' : Int} {rawBody rawBody' : Text} (hdouble : Double.nearest timestamp = .finite timestamp)
    (hdouble' : Double.nearest timestamp' = .finite timestamp') (hsmall : |timestamp| < 10 ^ 21)
    (hsmall' : |timestamp'| < 10 ^ 21)
    (h : signedText (.finite timestamp) rawBody = signedText (.finite timestamp') rawBody') :
    timestamp = timestamp' ∧ rawBody = rawBody' := by
  have hpoint := Double.toText_no_point hdouble hsmall
  have hpoint' := Double.toText_no_point hdouble' hsmall'
  have hsplit := congrArg (List.splitOn '.') h
  rw [signedText, signedText, List.splitOn_append_cons_self_of_not_mem hpoint,
    List.splitOn_append_cons_self_of_not_mem hpoint', List.cons.injEq] at hsplit
  obtain ⟨htext, hbody⟩ := hsplit
  constructor
  · have hread := (Double.toText_reads_back hdouble).symm.trans (htext ▸ Double.toText_reads_back hdouble')
    exact_mod_cast Double.finite.inj hread
  · have hjoin : ['.'].intercalate (rawBody.splitOn '.') = rawBody := List.intercalate_splitOn '.'
    rw [← hjoin, hbody, List.intercalate_splitOn]

end Signed

/-- Two messages, with their secrets, do not collide. -/
def Apart (hmac : Text → Text → Digest) (secret message secret' message' : Text) : Prop :=
  (hmac secret message).bytes = (hmac secret' message').bytes → secret = secret' ∧ message = message'

/-- **The signature of a delivery.** A header is accepted exactly when its last `t` is a whole number near the clock and
its last `v1` is the digest of that number and the raw body; so is what was signed at a whole second near the clock. While
the window is below 10^21, what carries the digest of another body, or of a time that is not near, is refused: the digest
would have to collide. -/
theorem verifyOutboxSignature_exact (hmac : Text → Text → Digest) (clock : Double) (input : SignatureInput) :
    (verifyOutboxSignature hmac clock input = true ↔ Authentic hmac clock input) ∧
    (∀ timestamp : Int, Double.nearest timestamp = .finite timestamp →
      Near (input.now clock) input.tolerance timestamp →
      input.header = some (signOutboxBody hmac input.secret input.rawBody (.finite timestamp)) →
      verifyOutboxSignature hmac clock input = true) ∧
    (∀ header ∈ input.header, ∀ (secret rawBody : Text) (made : Int), Double.nearest made = .finite made →
      |made| < 10 ^ 21 → (∀ timestamp, Near (input.now clock) input.tolerance timestamp → |timestamp| < 10 ^ 21) →
      LastPart header "v1".toList (digestText hmac secret rawBody made) →
      (∀ (timestamp : Int) (t : Text), LastPart header "t".toList t → numberOfText t = .finite timestamp →
        Apart hmac input.secret (signedText (.finite timestamp) input.rawBody) secret
          (signedText (.finite made) rawBody)) →
      ¬(secret = input.secret ∧ rawBody = input.rawBody ∧ Near (input.now clock) input.tolerance made) →
      verifyOutboxSignature hmac clock input = false) ∧
    ∀ (now timestamp : Int) (tolerance : ℚ), tolerance < 2 ^ 53 →
      (Near (.finite now) (.finite tolerance) timestamp ↔ |(now : ℚ) - timestamp| ≤ tolerance) := by
  refine ⟨verifyOutboxSignature_iff, ?_, ?_, fun now timestamp tolerance h => near_iff h⟩
  · intro timestamp hdouble hnear hheader
    obtain ⟨htime, hdigest⟩ := lastPart_signOutboxBody hmac input.secret input.rawBody hdouble
    exact verifyOutboxSignature_iff.mpr
      ⟨_, hheader, timestamp, _, htime, Double.toText_reads_back hdouble, hnear, hdigest⟩
  · intro header hheader secret rawBody made hmade hsmall hwindow hdigest hapart hother
    by_contra htrue
    obtain ⟨header', hheader', timestamp, t, ht, hnumber, hnear, hv⟩ :=
      verifyOutboxSignature_iff.mp (Bool.eq_true_of_not_eq_false htrue)
    obtain rfl : header' = header := Option.some.inj (hheader'.symm.trans hheader)
    have htext := hv.unique (by decide) hdigest
    have hbytes : (hmac input.secret (signedText (.finite timestamp) input.rawBody)).bytes =
        (hmac secret (signedText (.finite made) rawBody)).bytes := by
      rw [← Hex.bytes_text (hmac input.secret _).bytes, ← Hex.bytes_text (hmac secret _).bytes]
      exact congrArg Hex.bytes htext
    obtain ⟨hsecret, hsigned⟩ := hapart timestamp t ht hnumber hbytes
    have hdouble : Double.nearest timestamp = .finite timestamp := Double.nearest_numberOfText hnumber
    obtain ⟨rfl, hbody⟩ := signedText_injective hdouble hmade (hwindow _ hnear) hsmall hsigned
    exact hother ⟨hsecret.symm, hbody.symm, hnear⟩

/-- The `HMAC-SHA256` of two texts with the secret `secreto`: of `1.5.x`, and of `1.5e+21.x`. -/
def hmacMuestra (_secret text : Text) : Digest :=
  if text = "1.5.x".toList then
    ⟨[187, 242, 83, 216, 253, 146, 30, 199, 194, 157, 54, 139, 212, 43, 87, 200, 245, 55, 68, 183, 223, 82, 150, 235, 160,
      114, 91, 115, 107, 0, 0, 55], rfl⟩
  else
    ⟨[138, 212, 6, 103, 176, 58, 72, 120, 35, 159, 228, 86, 26, 181, 132, 230, 75, 241, 159, 69, 216, 67, 208, 38, 91, 231,
      74, 151, 178, 158, 179, 221], rfl⟩

/-- The header with a time and the digest of a body at another. -/
def headerMuestra (t : String) (rawBody : String) (made : ℚ) : Text :=
  "t=".toList ++ t.toList ++ ",v1=".toList ++
    Hex.text (hmacMuestra "secreto".toList (signedText (.finite made) rawBody.toList)).bytes

def inputMuestra (header : Text) (rawBody : String) (now tolerance : ℚ) : SignatureInput :=
  ⟨"secreto".toList, some header, rawBody.toList, some (.finite now), some (.finite tolerance)⟩

/-- The body `5.x` is signed at the first second; the digest of the body `5e+21.x` is refused for it. -/
theorem verifyOutboxSignature_exact_muestra :
    verifyOutboxSignature hmacMuestra .nan (inputMuestra (headerMuestra "1" "5.x" 1) "5.x" 3 300) = true ∧
      verifyOutboxSignature hmacMuestra .nan (inputMuestra (headerMuestra "1" "5e+21.x" 1) "5.x" 3 300) = false := by
  have hone : Double.nearest (1 : Int) = .finite (1 : Int) := Double.nearest_int (by decide)
  have hnear : ∀ timestamp : Int, Near (.finite 3) (.finite 300) timestamp ↔ |((3 : Int) : ℚ) - timestamp| ≤ 300 :=
    fun timestamp => near_iff (by norm_num)
  constructor
  · refine (verifyOutboxSignature_exact _ _ _).2.1 1 hone ((hnear 1).mpr (by norm_num [abs_le])) (congrArg some ?_)
    decide +kernel
  · refine (verifyOutboxSignature_exact _ _ _).2.2.1 _ rfl "secreto".toList "5e+21.x".toList 1 hone (by decide) ?_
      ((getPart_eq_some_iff (by decide)).mp (by decide +kernel)) ?_ (fun h => absurd h.2.1 (by decide))
    · intro timestamp h
      have hbound : |3 - timestamp| ≤ 300 := by exact_mod_cast (hnear timestamp).mp h
      rw [abs_le] at hbound
      rw [abs_lt]
      omega
    · intro timestamp t ht hnumber
      obtain rfl : t = ['1'] := ht.unique (by decide) ((getPart_eq_some_iff (by decide)).mp (by decide +kernel))
      have hread : numberOfText ['1'] = .finite (1 : Int) := by decide +kernel
      obtain rfl : timestamp = 1 := by exact_mod_cast Double.finite.inj (hnumber.symm.trans hread)
      exact fun hbytes => absurd hbytes (by decide +kernel)

/-- A header that was signed at a second and a half is refused for its own body, and its digest is accepted for another
one; so is, in a window of 2·10^21 seconds, the digest of another body at the first second; and a distance of 2^53 + 1
seconds is accepted with a tolerance of 2^53. -/
theorem verifyOutboxSignature_not_exact :
    (signOutboxBody hmacMuestra "secreto".toList "x".toList (.finite (3 / 2)) = headerMuestra "1.5" "x" (3 / 2) ∧
      verifyOutboxSignature hmacMuestra .nan (inputMuestra (headerMuestra "1.5" "x" (3 / 2)) "x" 2 300) = false) ∧
    verifyOutboxSignature hmacMuestra .nan (inputMuestra (headerMuestra "1" "x" (3 / 2)) "5.x" 2 300) = true ∧
    verifyOutboxSignature hmacMuestra .nan
      (inputMuestra (headerMuestra "1.5e21" "5e+21.x" 1) "x" 0 (2 * 10 ^ 21)) = true ∧
    verifyOutboxSignature hmacMuestra .nan
      (inputMuestra (headerMuestra "1" "5.x" 1) "5.x" (2 ^ 53 + 2) (2 ^ 53)) = true := by
  decide +kernel

end AtlasErp
