import EvoPlatform.Foundation.PercentEncoding
import EvoPlatform.Sdk.Wire

/-!
# The HTTP libraries

`fetch` and `httpx` parse the URL that a client hands over before they request
anything, and encode the values of the headers.  Both leave a plain path as it
is; what they make of other characters is their own affair, and so is what they
refuse.
-/

namespace EvoPlatform
namespace Sdk

/-- An HTTP library, as far as it treats the texts of a request. -/
structure HttpLibrary where
  /-- The path and query that are requested for the text of a URL. -/
  target : String → Option String
  /-- What is sent for the value of a header. -/
  headerValue : String → Option String

/-- A request as a library issues it. -/
structure IssuedRequest where
  method : HttpMethod
  target : String
  headers : List (String × String)
  body : Option JsonBody

namespace HttpLibrary

variable (library : HttpLibrary)

/-- The library takes the URL and the headers of a request. -/
def accepts (url : String) (headers : List (String × String)) : Bool :=
  (library.target url).isSome &&
    headers.all fun header => (library.headerValue header.2).isSome

/-- Issue a request, or refuse it. -/
def issue (request : HttpRequest) : Option IssuedRequest :=
  if library.accepts request.url request.headers then
    some {
      method := request.method
      target := (library.target request.url).getD ""
      headers := request.headers.map fun header =>
        (header.1, (library.headerValue header.2).getD "")
      body := request.body }
  else none

end HttpLibrary

/-- What two libraries make of the values of headers is the same. -/
def SameValues (fetch httpx : HttpLibrary) (headers : List (String × String)) :
    Prop :=
  ∀ header ∈ headers,
    fetch.headerValue header.2 = httpx.headerValue header.2

/-- Two requests with the same method and headers are issued alike exactly when
both are refused, or both are accepted and the libraries read their URLs and
headers alike and their bodies are the same. -/
theorem issue_eq_iff
    {fetch httpx : HttpLibrary}
    {node python : HttpRequest}
    (sameMethod : node.method = python.method)
    (sameHeaders : node.headers = python.headers) :
    fetch.issue node = httpx.issue python ↔
      (fetch.accepts node.url node.headers = false ∧
        httpx.accepts python.url node.headers = false) ∨
      (fetch.accepts node.url node.headers = true ∧
        httpx.accepts python.url node.headers = true ∧
        SameValues fetch httpx node.headers ∧
        fetch.target node.url = httpx.target python.url ∧
        node.body = python.body) := by
  unfold HttpLibrary.issue
  rw [← sameHeaders]
  cases nodeAccepts : fetch.accepts node.url node.headers with
  | false =>
      cases pythonAccepts : httpx.accepts python.url node.headers <;> simp
  | true =>
      cases pythonAccepts : httpx.accepts python.url node.headers with
      | false => simp
      | true =>
          obtain ⟨nodeTarget, nodeValues⟩ :=
            Bool.and_eq_true_iff.mp nodeAccepts
          obtain ⟨pythonTarget, pythonValues⟩ :=
            Bool.and_eq_true_iff.mp pythonAccepts
          obtain ⟨left, isLeft⟩ := Option.isSome_iff_exists.mp nodeTarget
          obtain ⟨right, isRight⟩ := Option.isSome_iff_exists.mp pythonTarget
          have values : node.headers.map (fun header =>
              (header.1, (fetch.headerValue header.2).getD "")) =
                node.headers.map (fun header =>
                  (header.1, (httpx.headerValue header.2).getD "")) ↔
              SameValues fetch httpx node.headers := by
            rw [List.map_inj_left]
            refine forall₂_congr fun header present => ?_
            obtain ⟨sent, isSent⟩ := Option.isSome_iff_exists.mp
              (List.all_eq_true.mp nodeValues header present)
            obtain ⟨other, isOther⟩ := Option.isSome_iff_exists.mp
              (List.all_eq_true.mp pythonValues header present)
            simp [isSent, isOther]
          simp only [if_true, Option.some.injEq, IssuedRequest.mk.injEq,
            sameMethod, values, isLeft, isRight, Option.getD_some, true_and,
            Bool.true_eq_false, false_and, false_or]
          exact ⟨fun ⟨target, headers, body⟩ => ⟨headers, target, body⟩,
            fun ⟨headers, target, body⟩ => ⟨target, headers, body⟩⟩

/-! ## Plain paths -/

/-- The characters that no parser of URLs escapes. -/
def unreserved (char : Char) : Bool :=
  char.isAlphanum || "-_.~".toList.contains char

/-- A path that no parser of URLs changes: it has neither a character to escape
nor a segment to resolve. -/
def plainPath (path : String) : Bool :=
  (path.toList.all fun char => unreserved char || char = '/') &&
    match path.toList.splitOn '/' with
    | [] :: segments => segments.all fun segment =>
        segment ≠ [] && segment ≠ ['.'] && segment ≠ ['.', '.']
    | _ => false

/-- The characters of a query that an encoder may have kept. -/
def queryChar (char : Char) : Bool :=
  unreserved char || "!*'()".toList.contains char

/-- After a base URL, the library requests plain paths as they are, and keeps
of a query what an encoder has kept, apart from some characters that it escapes
itself.  It may refuse any URL. -/
structure HttpLibrary.Reads (library : HttpLibrary) (base root : String)
    (keeps : Char → Bool) : Prop where
  path : ∀ path target, plainPath path = true →
    library.target (base ++ path) = some target → target = root ++ path
  query : ∀ path (encoder : Char → Bool) text target, plainPath path = true →
    (∀ char, encoder char = true → queryChar char = true) →
    library.target (base ++ (path ++ "?tenantId=" ++
      percentEncode encoder text)) = some target →
    target = root ++ (path ++ "?tenantId=" ++
      percentEncode (fun char => encoder char && keeps char) text)

/-- Libraries that read a base URL alike request a plain path alike. -/
theorem target_eq_of_plainPath
    {fetch httpx : HttpLibrary}
    {base root path : String}
    {fetchKeeps httpxKeeps : Char → Bool}
    (fetchReads : fetch.Reads base root fetchKeeps)
    (httpxReads : httpx.Reads base root httpxKeeps)
    (isPlain : plainPath path = true)
    (fetchTakes : (fetch.target (base ++ path)).isSome = true)
    (httpxTakes : (httpx.target (base ++ path)).isSome = true) :
    fetch.target (base ++ path) = httpx.target (base ++ path) := by
  obtain ⟨left, isLeft⟩ := Option.isSome_iff_exists.mp fetchTakes
  obtain ⟨right, isRight⟩ := Option.isSome_iff_exists.mp httpxTakes
  rw [isLeft, isRight, fetchReads.path path left isPlain isLeft,
    httpxReads.path path right isPlain isRight]

/-! ## Parsers of one base -/

/-- What follows the base of a URL, read character by character up to the
question mark and after it. -/
def readUrl (onPath onQuery : Char → List Char) : List Char → List Char
  | [] => []
  | char :: rest =>
      if char = '?' then '?' :: rest.flatMap onQuery
      else onPath char ++ readUrl onPath onQuery rest

/-- A path that the parser leaves alone. -/
theorem readUrl_append
    {onPath : Char → List Char}
    {path : List Char}
    (kept : ∀ char ∈ path, char ≠ '?' ∧ onPath char = [char])
    (onQuery : Char → List Char)
    (rest : List Char) :
    readUrl onPath onQuery (path ++ rest) =
      path ++ readUrl onPath onQuery rest := by
  induction path with
  | nil => rfl
  | cons char path inductionHypothesis =>
      obtain ⟨⟨noQuery, isKept⟩, keptRest⟩ := List.forall_mem_cons.mp kept
      rw [List.cons_append, readUrl, if_neg noQuery, isKept,
        inductionHypothesis keptRest]
      rfl

/-- A library that reads URLs on one base, refuses some characters and sends
printable headers only. -/
def urlLibrary (base : String) (refuses : Char → Bool)
    (onPath : Char → List Char) (keeps : Char → Bool) : HttpLibrary where
  target url :=
    if base.toList <+: url.toList ∧ url.toList.all (fun char => !refuses char)
    then
      some (String.ofList
        (readUrl onPath (percentChar keeps)
          (url.toList.drop base.toList.length)))
    else none
  headerValue value :=
    if value.toList.all fun char => 32 ≤ char.toNat && char.toNat < 127 then
      some value
    else none

theorem eq_of_target_urlLibrary
    {base rest target : String}
    {refuses keeps : Char → Bool}
    {onPath : Char → List Char}
    (requested : (urlLibrary base refuses onPath keeps).target (base ++ rest) =
      some target) :
    target = String.ofList
      (readUrl onPath (percentChar keeps) rest.toList) := by
  simp only [urlLibrary, String.toList_append, List.drop_left] at requested
  split at requested
  · exact (Option.some.inj requested).symm
  · contradiction

/-- Such a library reads its base if it keeps what a plain path and an escape
are made of. -/
theorem reads_urlLibrary
    {base : String}
    {refuses keeps : Char → Bool}
    {onPath : Char → List Char}
    (path : ∀ char, unreserved char = true ∨ char = '/' →
      onPath char = [char])
    (name : "tenantId=".toList.all keeps = true)
    (percent : keeps '%' = true)
    (hex : ∀ digit < 16, keeps (hexDigit digit) = true) :
    (urlLibrary base refuses onPath keeps).Reads base "" keeps := by
  have kept (text : String) (isPlain : plainPath text = true) :
      ∀ char ∈ text.toList, char ≠ '?' ∧ onPath char = [char] := by
    intro char present
    have ordinary : unreserved char = true ∨ char = '/' := by
      simpa using List.all_eq_true.mp (Bool.and_eq_true_iff.mp isPlain).1 char
        present
    refine ⟨?_, path char ordinary⟩
    rintro rfl
    exact absurd ordinary (by decide)
  constructor
  · intro text target isPlain requested
    have read : readUrl onPath (percentChar keeps) text.toList = text.toList := by
      have ends := readUrl_append (kept text isPlain) (percentChar keeps) []
      rwa [List.append_nil, readUrl, List.append_nil] at ends
    rw [eq_of_target_urlLibrary requested, read]
    simp
  · intro text encoder value target isPlain _ requested
    have named : ("tenantId=".toList).flatMap (percentChar keeps) =
        "tenantId=".toList :=
      flatMap_percentChar (List.all_eq_true.mp name)
    have encoded : (percentEncode encoder value).toList.flatMap
        (percentChar keeps) =
          (percentEncode (fun char => encoder char && keeps char)
            value).toList := by
      rw [← percentEncode_percentEncode percent hex value]
      exact String.toList_ofList.symm
    have query : "?tenantId=".toList = '?' :: "tenantId=".toList := rfl
    rw [eq_of_target_urlLibrary requested, String.toList_append,
      String.toList_append, List.append_assoc, readUrl_append (kept text isPlain),
      query, List.cons_append, readUrl, if_pos rfl, List.flatMap_append, named,
      encoded]
    apply String.toList_injective
    simp [query]

end Sdk
end EvoPlatform
