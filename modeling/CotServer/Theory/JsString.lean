import Mathlib.Data.List.Basic

/-!
# Strings of UTF-16 code units and their JSON text

A JavaScript string is any sequence of UTF-16 code units, lone surrogates included. `quote` is the
text that `JSON.stringify` writes for it; `unquote` reads that text back up to the closing quote
mark. The text of a string can therefore be told from whatever follows it (`quote_append_inj`),
which is what makes a concatenation of quoted fields decodable.
-/

namespace CotServer

/-- A string as the language has it: a sequence of UTF-16 code units. -/
abbrev JsString := List UInt16

/-- The code units of one character. -/
def utf16 (c : Char) : JsString :=
  if c.toNat < 0x10000 then [UInt16.ofNat c.toNat]
  else [UInt16.ofNat (0xD800 + (c.toNat - 0x10000) / 0x400),
    UInt16.ofNat (0xDC00 + (c.toNat - 0x10000) % 0x400)]

/-- A string literal. -/
def js (s : String) : JsString := s.toList.flatMap utf16

/-- A character is no surrogate. -/
theorem toNat_char (c : Char) : c.toNat < 0xD800 ∨ 0xDFFF < c.toNat ∧ c.toNat < 0x110000 := c.valid

theorem uint16_ofNat_inj {m n : Nat} (hm : m < 0x10000) (hn : n < 0x10000)
    (h : UInt16.ofNat m = UInt16.ofNat n) : m = n := by
  have hmod : m % 0x10000 = n % 0x10000 := by simpa using congrArg UInt16.toNat h
  rwa [Nat.mod_eq_of_lt hm, Nat.mod_eq_of_lt hn] at hmod

/-- The code units of a character determine it, and where they end. -/
theorem utf16_append_inj {c d : Char} {r r' : JsString} (h : utf16 c ++ r = utf16 d ++ r') :
    c = d ∧ r = r' := by
  have hc := toNat_char c
  have hd := toNat_char d
  unfold utf16 at h
  split at h <;> split at h <;> simp only [List.cons_append, List.nil_append, List.cons.injEq] at h
  · exact ⟨Char.toNat_inj.1 (uint16_ofNat_inj (by assumption) (by assumption) h.1), h.2⟩
  · -- the first code unit of a pair is a surrogate
    have := uint16_ofNat_inj (by assumption) (by omega) h.1
    omega
  · have := uint16_ofNat_inj (by omega) (by assumption) h.1
    omega
  · have hhigh := uint16_ofNat_inj (by omega) (by omega) h.1
    have hlow := uint16_ofNat_inj (by omega) (by omega) h.2.1
    exact ⟨Char.toNat_inj.1 (by omega), h.2.2⟩

/-- A literal is determined by its code units. -/
theorem js_inj {s t : String} (h : js s = js t) : s = t := by
  rw [← String.toList_inj]
  unfold js at h
  generalize s.toList = as at h ⊢
  generalize t.toList = bs at h ⊢
  have hne : ∀ c : Char, utf16 c ≠ [] := by
    intro c
    unfold utf16
    split <;> exact List.cons_ne_nil _ _
  induction as generalizing bs with
  | nil =>
    cases bs with
    | nil => rfl
    | cons d bs => simp [hne] at h
  | cons c as ih =>
    cases bs with
    | nil => simp [hne] at h
    | cons d bs =>
      obtain ⟨hcd, hrest⟩ := utf16_append_inj h
      rw [hcd, ih bs hrest]

namespace JsString

def isHighSurrogate (c : UInt16) : Bool := 0xD800 ≤ c && c ≤ 0xDBFF

def isLowSurrogate (c : UInt16) : Bool := 0xDC00 ≤ c && c ≤ 0xDFFF

/-- The letter after the backslash in a two-unit escape. -/
def shortEscape (c : UInt16) : Option UInt16 :=
  if c = 0x08 then some 0x62
  else if c = 0x09 then some 0x74
  else if c = 0x0A then some 0x6E
  else if c = 0x0C then some 0x66
  else if c = 0x0D then some 0x72
  else if c = 0x22 then some 0x22
  else if c = 0x5C then some 0x5C
  else none

def hexDigit (n : Nat) : UInt16 := UInt16.ofNat (if n < 10 then 48 + n else 87 + n)

/-- Four lower-case hexadecimal digits. -/
def hex4 (c : UInt16) : JsString :=
  [hexDigit (c.toNat / 4096), hexDigit (c.toNat / 256 % 16), hexDigit (c.toNat / 16 % 16),
    hexDigit (c.toNat % 16)]

/-- A code unit that is not half of a surrogate pair. -/
def quoteUnit (c : UInt16) : JsString :=
  match shortEscape c with
  | some e => [0x5C, e]
  | none =>
    if c < 0x20 || isHighSurrogate c || isLowSurrogate c then 0x5C :: 0x75 :: hex4 c else [c]

/-- The text between the quote marks. A surrogate pair stands for itself, a lone surrogate is
escaped. -/
def quoteUnits : JsString → JsString
  | [] => []
  | [c] => quoteUnit c
  | c :: d :: s =>
    if isHighSurrogate c && isLowSurrogate d then c :: d :: quoteUnits s
    else quoteUnit c ++ quoteUnits (d :: s)

/-- The text of `JSON.stringify` for a string. -/
def quote (s : JsString) : JsString := 0x22 :: quoteUnits s ++ [0x22]

/-! ## Reading the text back -/

def unescape (e : UInt16) : Option UInt16 :=
  if e = 0x62 then some 0x08
  else if e = 0x74 then some 0x09
  else if e = 0x6E then some 0x0A
  else if e = 0x66 then some 0x0C
  else if e = 0x72 then some 0x0D
  else if e = 0x22 then some 0x22
  else if e = 0x5C then some 0x5C
  else none

def hexValue (d : UInt16) : Nat := if d < 0x3A then d.toNat - 48 else d.toNat - 87

/-- The string before the first unescaped quote mark, and what follows the mark. -/
def unquote : JsString → Option (JsString × JsString)
  | [] => none
  | c :: r =>
    if c = 0x22 then some ([], r)
    else if c = 0x5C then
      match r with
      | [] => none
      | e :: r =>
        if e = 0x75 then
          match r with
          | h₁ :: h₂ :: h₃ :: h₄ :: r => (unquote r).map fun p =>
              (UInt16.ofNat (hexValue h₁ * 4096 + hexValue h₂ * 256 + hexValue h₃ * 16 +
                hexValue h₄) :: p.1, p.2)
          | _ => none
        else (unescape e).bind fun u => (unquote r).map fun p => (u :: p.1, p.2)
    else (unquote r).map fun p => (c :: p.1, p.2)

theorem hexValue_hexDigit : ∀ n, n < 16 → hexValue (hexDigit n) = n := by decide

theorem hexValue_hex4 (c : UInt16) :
    UInt16.ofNat (hexValue (hexDigit (c.toNat / 4096)) * 4096 +
      hexValue (hexDigit (c.toNat / 256 % 16)) * 256 +
      hexValue (hexDigit (c.toNat / 16 % 16)) * 16 + hexValue (hexDigit (c.toNat % 16))) = c := by
  have hc : c.toNat < 65536 := c.toNat_lt
  rw [hexValue_hexDigit _ (by omega), hexValue_hexDigit _ (by omega),
    hexValue_hexDigit _ (by omega), hexValue_hexDigit _ (by omega)]
  have h : c.toNat / 4096 * 4096 + c.toNat / 256 % 16 * 256 + c.toNat / 16 % 16 * 16 +
      c.toNat % 16 = c.toNat := by omega
  rw [h, UInt16.ofNat_toNat]

theorem shortEscape_spec {c e : UInt16} (h : shortEscape c = some e) :
    e ≠ 0x75 ∧ unescape e = some c := by
  unfold shortEscape at h
  split_ifs at h <;> (cases h; subst_vars; decide)

theorem shortEscape_none {c : UInt16} (h : shortEscape c = none) : c ≠ 0x22 ∧ c ≠ 0x5C := by
  constructor <;> rintro rfl <;> exact absurd h (by decide)

theorem surrogate_plain {c : UInt16} (h : isHighSurrogate c = true ∨ isLowSurrogate c = true) :
    c ≠ 0x22 ∧ c ≠ 0x5C := by
  constructor <;> rintro rfl <;> exact absurd h (by decide)

theorem unquote_plain {c : UInt16} (h : c ≠ 0x22 ∧ c ≠ 0x5C) (r : JsString) :
    unquote (c :: r) = (unquote r).map fun p => (c :: p.1, p.2) := by
  rw [unquote.eq_def]
  exact (if_neg h.1).trans (if_neg h.2)

theorem unquote_mark (r : JsString) : unquote (0x22 :: r) = some ([], r) := by
  rw [unquote.eq_def]
  exact if_pos rfl

theorem unquote_short {c e : UInt16} (h : shortEscape c = some e) (r : JsString) :
    unquote (0x5C :: e :: r) = (unquote r).map fun p => (c :: p.1, p.2) := by
  obtain ⟨hu, he⟩ := shortEscape_spec h
  rw [unquote.eq_def]
  refine (if_neg (by decide)).trans ((if_pos rfl).trans ((if_neg hu).trans ?_))
  rw [he, Option.bind_some]

theorem unquote_hex (c : UInt16) (r : JsString) :
    unquote (0x5C :: 0x75 :: hex4 c ++ r) = (unquote r).map fun p => (c :: p.1, p.2) := by
  rw [hex4, unquote.eq_def]
  refine (if_neg (by decide)).trans ((if_pos rfl).trans ((if_pos rfl).trans ?_))
  exact congrArg (fun u => (unquote r).map fun p => (u :: p.1, p.2)) (hexValue_hex4 c)

/-- One quoted unit is read back as that unit. -/
theorem unquote_quoteUnit (c : UInt16) (r : JsString) :
    unquote (quoteUnit c ++ r) = (unquote r).map fun p => (c :: p.1, p.2) := by
  unfold quoteUnit
  cases hs : shortEscape c with
  | some e => exact unquote_short hs r
  | none =>
    dsimp only
    split
    · exact unquote_hex c r
    · exact unquote_plain (shortEscape_none hs) r

/-- The text between the quote marks is read back as the string it stands for. -/
theorem unquote_quoteUnits (s r : JsString) :
    unquote (quoteUnits s ++ 0x22 :: r) = some (s, r) := by
  induction s using quoteUnits.induct with
  | case1 => exact unquote_mark r
  | case2 c => rw [quoteUnits, unquote_quoteUnit, unquote_mark]; rfl
  | case3 c d s h ih =>
    have hp := Bool.and_eq_true_iff.1 h
    rw [quoteUnits, if_pos h, List.cons_append, List.cons_append,
      unquote_plain (surrogate_plain (.inl hp.1)), unquote_plain (surrogate_plain (.inr hp.2)), ih]
    rfl
  | case4 c d s h ih =>
    rw [quoteUnits, if_neg h, List.append_assoc, unquote_quoteUnit, ih]
    rfl

/-- The text of a string determines the string and where the text ends. -/
theorem quote_append_inj {s t r r' : JsString} (h : quote s ++ r = quote t ++ r') :
    s = t ∧ r = r' := by
  simp only [quote, List.cons_append, List.append_assoc, List.nil_append, List.cons.injEq,
    true_and] at h
  have hs := unquote_quoteUnits s r
  rw [h, unquote_quoteUnits, Option.some.injEq, Prod.mk.injEq] at hs
  exact ⟨hs.1.symm, hs.2.symm⟩

example : quote (js "a\"b\n") = js "\"a\\\"b\\n\"" := by decide

end JsString

end CotServer
