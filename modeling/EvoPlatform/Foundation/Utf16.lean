import Mathlib.Algebra.GroupWithZero.Nat
import Mathlib.Data.List.DropRight
import Mathlib.Data.List.Dedup

/-!
# Strings of code units

A string of JavaScript is a list of 16-bit code units, which need not be
well-formed UTF-16.  Indexing, searching and matching work on code units;
iterating, and encoding as UTF-8, on code points, where a surrogate without its
partner stands for itself.
-/

namespace EvoPlatform

/-- A string of JavaScript. -/
abbrev JsString := List UInt16

namespace JsString

/-- A text in which every character is one code unit. -/
def ofText (text : String) : JsString :=
  text.toList.map fun char => char.toNat.toUInt16

/-- A leading surrogate. -/
def isLeading (unit : UInt16) : Bool := 0xD800 ≤ unit && unit ≤ 0xDBFF

/-- A trailing surrogate. -/
def isTrailing (unit : UInt16) : Bool := 0xDC00 ≤ unit && unit ≤ 0xDFFF

/-- The code point of a pair of surrogates. -/
def pairPoint (leading trailing : UInt16) : Nat :=
  0x10000 + (leading.toNat - 0xD800) * 0x400 + (trailing.toNat - 0xDC00)

/-- The code points over which a string iterates. -/
def codePoints : JsString → List Nat
  | [] => []
  | [unit] => [unit.toNat]
  | unit :: next :: rest =>
      if isLeading unit && isTrailing next then
        pairPoint unit next :: codePoints rest
      else unit.toNat :: codePoints (next :: rest)

/-- The bytes of a code point in UTF-8; a lone surrogate becomes the replacement
character, which has as many. -/
def utf8Bytes (point : Nat) : Nat :=
  if point < 0x80 then 1
  else if point < 0x800 then 2
  else if point < 0x10000 then 3
  else 4

/-- The length of a string in UTF-8. -/
def utf8Length (text : JsString) : Nat :=
  ((codePoints text).map utf8Bytes).sum

/-- The white space and line terminators that `trim` removes. -/
def isWhiteSpace (unit : UInt16) : Bool :=
  (0x09 ≤ unit && unit ≤ 0x0D) || unit = 0x20 || unit = 0xA0 ||
    unit = 0x1680 || (0x2000 ≤ unit && unit ≤ 0x200A) || unit = 0x2028 ||
    unit = 0x2029 || unit = 0x202F || unit = 0x205F || unit = 0x3000 ||
    unit = 0xFEFF

/-- `text.trim()`. -/
def trim (text : JsString) : JsString :=
  (text.dropWhile isWhiteSpace).rdropWhile isWhiteSpace

/-- `text.slice(start, stop)` with bounds in order. -/
def slice (text : JsString) (start stop : Nat) : JsString :=
  (text.drop start).take (stop - start)

/-- `text.includes(searched)`. -/
def includes (text searched : JsString) : Bool :=
  text.tails.any fun tail => searched.isPrefixOf tail

/-- `new Set(text).size`. -/
def distinct (text : JsString) : Nat := (codePoints text).dedup.length

/-! ## One repeated character -/

/-- The code points of a string of one character are all the same. -/
theorem eq_of_mem_codePoints
    {text : JsString}
    (single : distinct text = 1)
    {left right : Nat}
    (isLeft : left ∈ codePoints text)
    (isRight : right ∈ codePoints text) :
    left = right := by
  obtain ⟨only, isOnly⟩ := List.length_eq_one_iff.mp single
  have isOnlyPoint : ∀ point ∈ codePoints text, point = only := by
    intro point present
    have kept := List.mem_dedup.mpr present
    rw [isOnly] at kept
    exact List.mem_singleton.mp kept
  rw [isOnlyPoint left isLeft, isOnlyPoint right isRight]

/-- The second code unit of a string of one character that does not begin with a
surrogate is the first one. -/
theorem second_eq_of_distinct
    {first second : UInt16}
    {rest : JsString}
    (single : distinct (first :: second :: rest) = 1)
    (notLeading : isLeading first = false) :
    second = first := by
  have isFirst : ∀ point ∈ codePoints (second :: rest),
      point = first.toNat := by
    intro point present
    apply eq_of_mem_codePoints single
    · simp [codePoints, notLeading, present]
    · simp [codePoints, notLeading]
  -- The second character is no pair of surrogates, since its code point is that
  -- of the first code unit.
  cases rest with
  | nil =>
      have same := isFirst second.toNat (by simp [codePoints])
      exact UInt16.toNat_inj.mp same
  | cons third rest =>
      cases paired : isLeading second && isTrailing third with
      | false =>
          have same := isFirst second.toNat (by simp [codePoints, paired])
          exact UInt16.toNat_inj.mp same
      | true =>
          have same := isFirst (pairPoint second third)
            (by simp [codePoints, paired])
          have small := first.toNat_lt
          unfold pairPoint at same
          omega

/-- A string of one character that does not begin with a surrogate repeats its
first code unit. -/
theorem eq_first_of_distinct
    {first : UInt16}
    (notLeading : isLeading first = false)
    {rest : JsString}
    (single : distinct (first :: rest) = 1) :
    ∀ unit ∈ rest, unit = first := by
  induction rest with
  | nil =>
      intro unit absent
      contradiction
  | cons second rest inductionHypothesis =>
      have isFirst := second_eq_of_distinct single notLeading
      subst isFirst
      have restSingle : distinct (second :: rest) = 1 := by
        have repeated : codePoints (second :: second :: rest) =
            second.toNat :: codePoints (second :: rest) := by
          simp [codePoints, notLeading]
        have present : second.toNat ∈ codePoints (second :: rest) := by
          cases rest <;> simp [codePoints, notLeading]
        unfold distinct at single ⊢
        rw [repeated, List.dedup_cons_of_mem present] at single
        exact single
      intro unit present
      rcases List.mem_cons.mp present with rfl | later
      · rfl
      · exact inductionHypothesis restSingle unit later

end JsString

/-! ## Stripping a suffix -/

section Strip

variable {α : Type} {less more : α → Bool}

/-- A larger class strips as much as a smaller one, or strips more from where the
smaller one has stopped. -/
theorem rdropWhile_rdropWhile
    (weaker : ∀ unit, less unit = true → more unit = true)
    (text : List α) :
    (text.rdropWhile less).rdropWhile more = text.rdropWhile more := by
  induction text using List.reverseRecOn with
  | nil => rfl
  | append_singleton text unit inductionHypothesis =>
      by_cases inLess : less unit = true
      · rw [List.rdropWhile_concat_pos _ _ _ inLess,
          List.rdropWhile_concat_pos _ _ _ (weaker unit inLess),
          inductionHypothesis]
      · rw [List.rdropWhile_concat_neg _ _ _ inLess]

end Strip

end EvoPlatform
