import MediaRelay.Message.Response
import MediaRelay.Proofs.Message.RoundTrip
import Mathlib.Data.Char
import Mathlib.Data.List.Lex
import Mathlib.Data.List.Sort

/-! # Responses on the wire

What a peer makes of a response. `Response.receive?` splits the message at its line feeds, each of
which has to follow a carriage return, up to the first empty line; the first line is the status,
the others are cut at their first colon, and what stands behind the empty line is the body. A
response is received as it was meant if its names are bare and no line feed stands in its values
(`Response.receive?_encode`): colons, carriage returns and blanks in a value do no harm.
-/

namespace MediaRelay

namespace Headers

/-! ## The order of the fields -/

/-- Whether a field may be written before another. -/
def NameLe (first second : Text × Text) : Prop := first.1 ≤ second.1

instance : DecidableRel NameLe := fun first second =>
  inferInstanceAs (Decidable (first.1 ≤ second.1))

instance : Std.Total NameLe := ⟨fun first second => le_total first.1 second.1⟩

instance : IsTrans (Text × Text) NameLe := ⟨fun _ _ _ => le_trans⟩

theorem insertByName_eq (field : Text × Text) (headers : Headers) :
    insertByName field headers = headers.orderedInsert NameLe field := by
  induction headers with
  | nil => rfl
  | cons other rest ih =>
      rw [insertByName, List.orderedInsert_cons, ih]
      by_cases smaller : other.1 < field.1
      · have after : ¬ NameLe field other := not_le.mpr smaller
        rw [if_pos smaller, if_neg after]
      · have before : NameLe field other := not_lt.mp smaller
        rw [if_neg smaller, if_pos before]

theorem sortedByName_eq (headers : Headers) :
    headers.sortedByName = headers.insertionSort NameLe := by
  rw [sortedByName, List.insertionSort, funext₂ insertByName_eq]

theorem perm_sortedByName (headers : Headers) : headers.sortedByName.Perm headers := by
  rw [sortedByName_eq]
  exact List.perm_insertionSort NameLe headers

theorem pairwise_sortedByName (headers : Headers) : headers.sortedByName.Pairwise NameLe := by
  rw [sortedByName_eq]
  exact List.pairwise_insertionSort NameLe headers

/-- **Fields of one name keep their order.** -/
theorem filter_sortedByName (headers : Headers) (name : Text) :
    headers.sortedByName.filter (fun field => field.1 = name) =
      headers.filter fun field => field.1 = name := by
  have level : (headers.filter fun field => field.1 = name).Pairwise NameLe := by
    refine List.pairwise_of_forall_mem_list ?_
    intro first firstly second secondly
    have same : first.1 = second.1 := by
      rw [of_decide_eq_true (List.mem_filter.mp firstly).2,
        of_decide_eq_true (List.mem_filter.mp secondly).2]
    exact le_of_eq same
  have kept := List.sublist_insertionSort level List.filter_sublist
  have among := kept.filter fun field => field.1 = name
  rw [List.filter_filter, ← sortedByName_eq] at among
  simp only [Bool.and_self] at among
  exact (among.eq_of_length ((perm_sortedByName headers).filter _).length_eq.symm).symm

end Headers

/-- What a peer makes of a response. -/
structure Received where
  statusLine : Text
  headers : Headers
  body : Bytes
  deriving DecidableEq, Repr

namespace Response

open Line

/-! ## Splitting a message -/

/-- Splits a message at its line feeds into the lines before the first empty one and what comes
behind it. A line feed has to follow a carriage return, which goes with it. What has been seen of
the line so far is carried along. -/
def splitHead : (seen : Bytes) → Bytes → Option (List Bytes × Bytes)
  | _, [] => none
  | seen, byte :: rest =>
    if byte = lineFeed then
      if seen.getLast? = some carriageReturn then
        if seen.dropLast = [] then
          some ([], rest)
        else
          (splitHead [] rest).map fun parts => (seen.dropLast :: parts.1, parts.2)
      else
        none
    else
      splitHead (seen ++ [byte]) rest

/-- Reads a response: a status line, header fields and all that follows as the body. -/
def receive? (message : Bytes) : Option Received := do
  let (lines, body) ← splitHead [] message
  match ← lines.mapM Utf8.decode? with
  | [] => none
  | statusLine :: others => return ⟨statusLine, ← others.mapM Request.field?, body⟩

variable {line : Bytes} {response : Response}

theorem splitHead_append (unbroken : lineFeed ∉ line) (seen rest : Bytes) :
    splitHead seen (line ++ rest) = splitHead (seen ++ line) rest := by
  induction line generalizing seen with
  | nil => rw [List.append_nil, List.nil_append]
  | cons byte line ih =>
      rw [List.mem_cons, not_or] at unbroken
      rw [List.cons_append, splitHead, if_neg (Ne.symm unbroken.1), ih unbroken.2,
        List.append_assoc, List.cons_append, List.nil_append]

/-- A line of text is split off. -/
theorem splitHead_line {text : Text} (unbroken : '\n' ∉ text) (filled : text ≠ []) (rest : Bytes) :
    splitHead [] (Utf8.encode (text ++ "\r\n".toList) ++ rest) =
      (splitHead [] rest).map fun parts => (Utf8.encode text :: parts.1, parts.2) := by
  rw [encode_line, splitHead_append (not_mem_returned unbroken), List.nil_append, splitHead,
    if_pos rfl, if_pos List.getLast?_concat, List.dropLast_concat,
    if_neg (Utf8.encode_ne_nil filled)]

theorem splitHead_emptyLine (rest : Bytes) :
    splitHead [] (Utf8.encode "\r\n".toList ++ rest) = some ([], rest) := by
  rfl

/-- The lines of fields are split off one by one. -/
theorem splitHead_lines {fields : Headers} (clean : ∀ field ∈ fields, Headers.Clean field)
    (body : Bytes) :
    splitHead [] (Utf8.encode (Headers.lines fields ++ "\r\n".toList) ++ body) =
      some (fields.map fun field => Utf8.encode (field.1 ++ ": ".toList ++ field.2), body) := by
  induction fields with
  | nil => exact splitHead_emptyLine body
  | cons field fields ih =>
      rw [List.forall_mem_cons] at clean
      rw [Headers.encode_lines_cons, splitHead_line clean.1.unbroken (by simp), ih clean.2,
        Option.map_some, List.map_cons]

/-- What reads every element reads the list. -/
theorem mapM_map_eq_some {α β γ : Type} {write : α → β} {read? : β → Option γ} {meant : α → γ}
    {elements : List α}
    (found : ∀ element ∈ elements, read? (write element) = some (meant element)) :
    (elements.map write).mapM read? = some (elements.map meant) := by
  induction elements with
  | nil => rfl
  | cons element elements ih =>
      rw [List.forall_mem_cons] at found
      rw [List.map_cons, List.mapM_cons, found.1, ih found.2]
      rfl

theorem unbroken_statusLine (status : Status) : '\n' ∉ protocolVersion ++ ' ' :: status.line := by
  cases status <;> decide

/-- **A response is received as it was written**, with the blanks around its values left out. -/
theorem receive?_encode (clean : ∀ field ∈ response.writtenHeaders, Headers.Clean field) :
    receive? response.encode = some
      { statusLine := protocolVersion ++ ' ' :: response.status.line
        headers := response.writtenHeaders.map Headers.withTrimmed
        body := response.body } := by
  have parted : response.encode =
      Utf8.encode (protocolVersion ++ ' ' :: response.status.line ++ "\r\n".toList) ++
        (Utf8.encode (response.writtenHeaders.lines ++ "\r\n".toList) ++ response.body) := by
    simp only [encode, statusLine, Utf8.encode_append, List.append_assoc]
  have split : splitHead [] response.encode = some
      (Utf8.encode (protocolVersion ++ ' ' :: response.status.line) ::
        response.writtenHeaders.map fun field => Utf8.encode (field.1 ++ ": ".toList ++ field.2),
        response.body) := by
    rw [parted, splitHead_line (unbroken_statusLine _) (by simp), splitHead_lines clean]
    rfl
  have spelled : (response.writtenHeaders.map fun field =>
      Utf8.encode (field.1 ++ ": ".toList ++ field.2)).mapM Utf8.decode? =
        some (response.writtenHeaders.map fun field => field.1 ++ ": ".toList ++ field.2) :=
    mapM_map_eq_some fun field _ => Utf8.decode?_encode _
  have cut : (response.writtenHeaders.map fun field =>
      field.1 ++ ": ".toList ++ field.2).mapM Request.field? =
        some (response.writtenHeaders.map Headers.withTrimmed) :=
    mapM_map_eq_some fun field member => (clean field member).read
  unfold receive?
  simp only [split, List.mapM_cons, Utf8.decode?_encode, spelled, cut, Option.bind_eq_bind,
    Option.bind_some, Option.pure_def]

-- A line feed in a value would begin a field of its own.
example : (receive? ((new .ok).add "A".toList "1\r\nB: 2".toList).encode).map Received.headers =
    some [("A".toList, "1".toList), ("B".toList, "2".toList),
      ("Server".toList, "rtsp-relay/0.1".toList)] := by decide +kernel

end Response

end MediaRelay
