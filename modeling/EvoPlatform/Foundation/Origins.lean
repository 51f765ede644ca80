import Mathlib.Data.List.Basic

/-!
# URLs and their origins

What the WHATWG URL standard says of the origin of a URL that was parsed.  Only
the schemes of the web have an origin of their own; a blob URL has that of the
page in its path, and every other origin is serialised as the text `null`.
-/

namespace EvoPlatform

/-- A host, as it is serialised: a domain or an address without a colon, or an
address in brackets. -/
@[ext] structure UrlHost where
  text : String
  delimited :
    (':' ∉ text.toList ∧ '[' ∉ text.toList) ∨
      ∃ address, ']' ∉ address ∧ text.toList = '[' :: address ++ [']']
  deriving DecidableEq

/-- The schemes that have an origin of their own. -/
def tupleSchemes : List String := ["ftp", "http", "https", "ws", "wss"]

/-- A URL that was parsed, as far as its origin goes.  A port that is the
default of the scheme is left out. -/
structure UrlRecord where
  scheme : String
  host : Option UrlHost
  port : Option Nat
  /-- The path, as it is serialised. -/
  path : String
  deriving DecidableEq

/-- The origin of a page. -/
@[ext] structure TupleOrigin where
  scheme : String
  host : UrlHost
  port : Option Nat
  known : scheme ∈ tupleSchemes
  deriving DecidableEq

namespace TupleOrigin

/-- A port, as it follows the host. -/
def portText : Option Nat → String
  | none => ""
  | some port => ":" ++ toString port

/-- The text of an origin; one that is not of a page is `null`. -/
def serialize : Option TupleOrigin → String
  | none => "null"
  | some origin =>
      origin.scheme ++ ("://" ++ (origin.host.text ++ portText origin.port))

theorem portText_injective : Function.Injective portText := by
  intro left right same
  have digits (port : Nat) :
      (portText (some port)).toList = ':' :: Nat.toDigits 10 port := by
    simp [portText]
  have letters := congrArg String.toList same
  cases left with
  | none =>
      cases right with
      | none => rfl
      | some port => simp [portText] at letters
  | some first =>
      cases right with
      | none => simp [portText] at letters
      | some second =>
          rw [digits, digits] at letters
          have sameDigits := (List.cons.inj letters).2
          have sameValue :=
            congrArg (fun shown => Nat.ofDigitChars 10 shown 0) sameDigits
          simp only [Nat.ofDigitChars_ten_toDigits] at sameValue
          exact congrArg some sameValue

/-- Texts that lack a separator are told apart from what follows it. -/
theorem append_cons_inj_of_absent
    {separator : Char}
    {first second rest other : List Char}
    (absent : separator ∉ first)
    (otherAbsent : separator ∉ second)
    (same : first ++ separator :: rest = second ++ separator :: other) :
    first = second ∧ rest = other := by
  induction first generalizing second with
  | nil =>
      cases second with
      | nil => exact ⟨rfl, (List.cons.inj same).2⟩
      | cons head second =>
          have isHead : separator = head := (List.cons.inj same).1
          simp [isHead] at otherAbsent
  | cons head first inductionHypothesis =>
      cases second with
      | nil =>
          have isHead : head = separator := (List.cons.inj same).1
          simp [isHead] at absent
      | cons otherHead second =>
          obtain ⟨rfl, sameRest⟩ := List.cons.inj same
          obtain ⟨rfl, rfl⟩ := inductionHypothesis
            (fun present => absent (List.mem_cons_of_mem _ present))
            (fun present => otherAbsent (List.mem_cons_of_mem _ present))
            sameRest
          exact ⟨rfl, rfl⟩

/-- A port text is empty, or follows a colon. -/
theorem portText_cases (port : Option Nat) :
    (portText port).toList = [] ∨
      ∃ digits, (portText port).toList = ':' :: digits := by
  cases port with
  | none => exact Or.inl rfl
  | some port => exact Or.inr ⟨_, by simp [portText]; rfl⟩

/-- A text without a colon ends where the port begins. -/
theorem append_portText_inj
    {first second : List Char}
    (firstPlain : ':' ∉ first)
    (secondPlain : ':' ∉ second)
    {left right : Option Nat}
    (same : first ++ (portText left).toList =
      second ++ (portText right).toList) :
    first = second ∧ (portText left).toList = (portText right).toList := by
  rcases portText_cases left with noPort | ⟨digits, isPort⟩ <;>
    rcases portText_cases right with otherNone | ⟨otherDigits, otherPort⟩
  · simpa [noPort, otherNone] using same
  · rw [noPort, otherPort, List.append_nil] at same
    exact absurd (same ▸ by simp) firstPlain
  · rw [isPort, otherNone, List.append_nil] at same
    exact absurd (same ▸ by simp) secondPlain
  · rw [isPort, otherPort] at same ⊢
    obtain ⟨sameText, sameDigits⟩ :=
      append_cons_inj_of_absent firstPlain secondPlain same
    exact ⟨sameText, congrArg _ sameDigits⟩

/-- A host and a port can be told apart in their text. -/
theorem hostPort_inj
    {first second : UrlHost}
    {left right : Option Nat}
    (same : first.text.toList ++ (portText left).toList =
      second.text.toList ++ (portText right).toList) :
    first.text = second.text ∧ left = right := by
  have unbracketed {text : List Char} (plain : '[' ∉ text)
      (port : Option Nat) (rest : List Char) :
      text ++ (portText port).toList ≠ '[' :: rest := by
    intro same
    cases text with
    | nil => rcases portText_cases port with shown | ⟨digits, shown⟩ <;>
        simp [shown] at same
    | cons first text =>
        obtain ⟨rfl, -⟩ := List.cons.inj same
        exact plain (by simp)
  have assemble (sameText : first.text.toList = second.text.toList)
      (samePort : (portText left).toList = (portText right).toList) :
      first.text = second.text ∧ left = right :=
    ⟨String.ext sameText, portText_injective (String.ext samePort)⟩
  rcases first.delimited with ⟨noColon, noBracket⟩ | ⟨inner, noEnd, bracketed⟩
  · rcases second.delimited with ⟨otherColon, -⟩ | ⟨inner, -, bracketed⟩
    · obtain ⟨sameText, samePort⟩ := append_portText_inj noColon otherColon same
      exact assemble sameText samePort
    · rw [bracketed] at same
      exact absurd same (unbracketed noBracket left _)
  · rcases second.delimited with ⟨-, noBracket⟩ | ⟨other, otherEnd, isOther⟩
    · rw [bracketed] at same
      exact absurd same.symm (unbracketed noBracket right _)
    · rw [bracketed, isOther] at same
      simp only [List.cons_append, List.append_assoc, List.nil_append,
        List.cons.injEq, true_and] at same
      obtain ⟨sameInner, samePort⟩ :=
        append_cons_inj_of_absent noEnd otherEnd same
      exact assemble (by rw [bracketed, isOther, sameInner]) samePort

theorem colon_notMem_of_known {scheme : String}
    (known : scheme ∈ tupleSchemes) :
    ':' ∉ scheme.toList := by
  have plain : ∀ scheme ∈ tupleSchemes, ':' ∉ scheme.toList := by
    decide +kernel
  exact plain scheme known

/-- The text of an origin determines it. -/
theorem serialize_injective : Function.Injective serialize := by
  have notNull (origin : TupleOrigin) :
      serialize (some origin) ≠ serialize none := by
    intro same
    have noColon : ':' ∉ "null".toList := by decide
    have letters := congrArg String.toList same
    simp only [serialize, String.toList_append] at letters
    exact noColon (letters ▸ by simp)
  intro left right same
  cases left with
  | none =>
      cases right with
      | none => rfl
      | some origin => exact absurd same.symm (notNull origin)
  | some first =>
      cases right with
      | none => exact absurd same (notNull first)
      | some second =>
          have slashes : "://".toList = ':' :: ['/', '/'] := by decide
          have letters := congrArg String.toList same
          simp only [serialize, String.toList_append, slashes,
            List.cons_append, List.nil_append] at letters
          obtain ⟨sameScheme, sameRest⟩ :=
            append_cons_inj_of_absent (colon_notMem_of_known first.known)
              (colon_notMem_of_known second.known) letters
          have sameAuthority := (List.cons.inj sameRest).2
          obtain ⟨sameHost, samePort⟩ :=
            hostPort_inj (List.cons.inj sameAuthority).2
          exact congrArg some (TupleOrigin.ext (String.ext sameScheme)
            (UrlHost.ext sameHost) samePort)

end TupleOrigin

namespace UrlRecord

/-- The origin of a URL whose scheme has one. -/
def ownOrigin (url : UrlRecord) : Option TupleOrigin :=
  if known : url.scheme ∈ tupleSchemes then
    url.host.map fun host => { url with host := host, known := known }
  else none

/-- The origin of a URL, with the parser that reads the path of a blob URL. -/
def origin (parse : String → Option UrlRecord) (url : UrlRecord) :
    Option TupleOrigin :=
  if url.scheme = "blob" then
    (parse url.path).bind fun inner =>
      if inner.scheme = "http" ∨ inner.scheme = "https" then inner.ownOrigin
      else none
  else url.ownOrigin

end UrlRecord

end EvoPlatform
