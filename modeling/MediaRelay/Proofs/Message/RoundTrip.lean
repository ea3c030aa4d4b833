import MediaRelay.Proofs.Message.Reading
import Mathlib.Tactic.MkIffOfInductiveProp

/-! # Requests are read back as they were written

Requests that are safe on the wire (`Request.WireSafe`) come out of a stream as they went in, one
after the other and to the last (`Request.readAll_encode`). Empty lines may stand between them, and
a body may hold anything: it is taken by its length.
-/

namespace MediaRelay

namespace Line

variable {line : Bytes} {text : Text}

/-- An empty line, with a carriage return or without. -/
def emptyLine (returned : Bool) : Bytes :=
  if returned then [carriageReturn, lineFeed] else [lineFeed]

theorem skipEmpty_emptyLines (returns : List Bool) (rest : Bytes) :
    skipEmpty (returns.flatMap emptyLine ++ rest) = skipEmpty rest := by
  induction returns with
  | nil => rfl
  | cons returned returns ih =>
      rw [List.flatMap_cons, List.append_assoc]
      cases returned <;> exact ih

/-- A line that holds more than a carriage return is not skipped. -/
theorem skipEmpty_line (unbroken : lineFeed ∉ line) (filled : withoutReturn line ≠ [])
    (rest : Bytes) : skipEmpty (line ++ lineFeed :: rest) = line ++ lineFeed :: rest := by
  match line, unbroken, filled with
  | [], _, filled => exact absurd rfl filled
  | [first], unbroken, filled =>
      have fed : first ≠ lineFeed := by simpa [eq_comm] using unbroken
      have returned : first ≠ carriageReturn := fun same => by simp [withoutReturn, same] at filled
      unfold skipEmpty
      split
      · rename_i same
        exact absurd (List.cons.inj same).1 fed
      · rename_i same
        exact absurd (List.cons.inj same).1 returned
      · rfl
  | first :: second :: others, unbroken, _ =>
      simp only [List.mem_cons, not_or] at unbroken
      unfold skipEmpty
      split
      · rename_i same
        exact absurd (List.cons.inj same).1.symm unbroken.1
      · rename_i same
        exact absurd (List.cons.inj (List.cons.inj same).2).1.symm unbroken.2.1
      · rfl

/-- A line of text as it is written, up to its line feed. -/
theorem encode_line (text : Text) (rest : Bytes) :
    Utf8.encode (text ++ "\r\n".toList) ++ rest =
      (Utf8.encode text ++ [carriageReturn]) ++ lineFeed :: rest := by
  rw [Utf8.encode_append, List.append_assoc, List.append_assoc]
  rfl

theorem not_mem_returned (unbroken : '\n' ∉ text) :
    lineFeed ∉ Utf8.encode text ++ [carriageReturn] := by
  have absent : lineFeed ∉ Utf8.encode text := Utf8.not_mem_encode (by decide) unbroken
  simpa [absent] using (by decide : lineFeed ≠ carriageReturn)

theorem withoutReturn_append (line : Bytes) : withoutReturn (line ++ [carriageReturn]) = line := by
  simp [withoutReturn]

theorem read_encode (unbroken : '\n' ∉ text)
    (fits : (Utf8.encode (text ++ "\r\n".toList)).length ≤ maxLine) (rest : Bytes) :
    read (Utf8.encode (text ++ "\r\n".toList) ++ rest) = .ok (some (text, rest)) := by
  refine read_eq_some_iff.mpr ⟨_, encode_line text rest, not_mem_returned unbroken, ?_, ?_⟩
  · have length := congrArg List.length (encode_line text [])
    simp only [List.append_nil, List.length_append, List.length_cons, List.length_nil] at length ⊢
    omega
  · rw [withoutReturn_append, Utf8.decode?_encode]

theorem skipEmpty_encode (unbroken : '\n' ∉ text) (filled : text ≠ []) (rest : Bytes) :
    skipEmpty (Utf8.encode (text ++ "\r\n".toList) ++ rest) =
      Utf8.encode (text ++ "\r\n".toList) ++ rest := by
  have kept : withoutReturn (Utf8.encode text ++ [carriageReturn]) ≠ [] := by
    rw [withoutReturn_append]
    exact Utf8.encode_ne_nil filled
  rw [encode_line, skipEmpty_line (not_mem_returned unbroken) kept]

theorem length_skipEmpty_le (input : Bytes) : (skipEmpty input).length ≤ input.length := by
  fun_induction skipEmpty input with
  | case1 rest ih => exact Nat.le_trans ih (Nat.le_add_right rest.length 1)
  | case2 rest ih => exact Nat.le_trans ih (Nat.le_add_right rest.length 2)
  | case3 => exact Nat.le_refl _

theorem length_lt_of_read {input rest : Bytes} (found : read input = .ok (some (text, rest))) :
    rest.length < input.length := by
  obtain ⟨line, rfl, -⟩ := read_eq_some_iff.mp found
  simp only [List.length_append, List.length_cons]
  omega

end Line

namespace Headers

/-- A field with its value trimmed. -/
def withTrimmed (field : Text × Text) : Text × Text := (field.1, Text.trimmed field.2)

/-- A field that is read back with its value trimmed. -/
structure Clean (field : Text × Text) : Prop where
  named : field.1 ≠ []
  name_trimmed : Text.trimmed field.1 = field.1
  name_uncut : ':' ∉ field.1
  name_unbroken : '\n' ∉ field.1
  value_unbroken : '\n' ∉ field.2

/-- A field that is read back as it is written. -/
@[mk_iff]
structure Plain (field : Text × Text) : Prop where
  named : field.1 ≠ []
  name_trimmed : Text.trimmed field.1 = field.1
  name_uncut : ':' ∉ field.1
  name_unbroken : '\n' ∉ field.1
  value_trimmed : Text.trimmed field.2 = field.2
  value_unbroken : '\n' ∉ field.2

instance (field : Text × Text) : Decidable (Plain field) :=
  decidable_of_iff' _ (plain_iff field)

variable {field : Text × Text}

theorem Plain.clean (plain : Plain field) : Clean field :=
  ⟨plain.named, plain.name_trimmed, plain.name_uncut, plain.name_unbroken, plain.value_unbroken⟩

theorem Plain.withTrimmed_eq (plain : Plain field) : withTrimmed field = field :=
  Prod.ext rfl plain.value_trimmed

theorem map_withTrimmed {headers : Headers} (plain : ∀ field ∈ headers, Plain field) :
    headers.map withTrimmed = headers := by
  have kept := List.map_congr_left fun field member => (plain field member).withTrimmed_eq
  exact kept.trans (List.map_id headers)

theorem Clean.read (clean : Clean field) :
    Request.field? (field.1 ++ ": ".toList ++ field.2) = some (withTrimmed field) := by
  have cut : Text.cut? ':' (field.1 ++ ": ".toList ++ field.2) =
      some (field.1, ' ' :: field.2) := by
    refine Text.cut?_eq_some_iff.mpr ⟨?_, clean.name_uncut⟩
    rw [List.append_assoc]
    rfl
  have named : field.1.isEmpty = false := by simpa using clean.named
  have blank : Text.isBlank ' ' = true := by decide
  unfold Request.field?
  rw [cut]
  simp [clean.name_trimmed, named, Text.trimmed_cons blank, withTrimmed]

theorem Plain.read (plain : Plain field) :
    Request.field? (field.1 ++ ": ".toList ++ field.2) = some field := by
  rw [plain.clean.read, plain.withTrimmed_eq]

theorem Clean.unbroken (clean : Clean field) : '\n' ∉ field.1 ++ ": ".toList ++ field.2 := by
  simp [clean.name_unbroken, clean.value_unbroken]

/-- The line of the first field comes first. -/
theorem encode_lines_cons (field : Text × Text) (fields : Headers) (rest : Bytes) :
    Utf8.encode (lines (field :: fields) ++ "\r\n".toList) ++ rest =
      Utf8.encode (field.1 ++ ": ".toList ++ field.2 ++ "\r\n".toList) ++
        (Utf8.encode (lines fields ++ "\r\n".toList) ++ rest) := by
  simp only [lines, List.flatMap_cons, fieldLine, Utf8.encode_append, List.append_assoc]

end Headers

namespace Request

/-- A word of the request line. -/
@[mk_iff]
structure Word (text : Text) : Prop where
  filled : text ≠ []
  unparted : ' ' ∉ text
  unbroken : '\n' ∉ text

instance (text : Text) : Decidable (Word text) :=
  decidable_of_iff' _ (word_iff text)

/-- A request that the wire carries: it can be written unambiguously and keeps to the limits of
reading. -/
@[mk_iff]
structure WireSafe (request : Request) : Prop where
  version : request.version = protocolVersion
  method : Word request.method
  uri : Word request.uri
  fields : ∀ field ∈ request.headers, Headers.Plain field
  line_fits : (Utf8.encode request.requestLine).length ≤ Line.maxLine
  fields_fit : ∀ field ∈ request.writtenHeaders,
    (Utf8.encode (Headers.fieldLine field)).length ≤ Line.maxLine
  few : request.writtenHeaders.length ≤ maxHeaders
  body_fits : request.body.length ≤ maxBody

instance (request : Request) : Decidable request.WireSafe :=
  decidable_of_iff' _ (wireSafe_iff request)

/-- A request as it arrives: lengths that it stated are left out, and the length of a body that is
not empty is stated last. -/
def received (request : Request) : Request :=
  { request with
    headers :=
      request.headers.filter (fun field => !Text.sameFolded field.1 Headers.contentLength) ++
        if request.body = [] then []
        else [(Headers.contentLength, Decimal.digits request.body.length)] }

variable {request : Request} {input rest : Bytes}

theorem headers_received (request : Request) :
    request.received.headers = request.writtenHeaders := by
  cases body : request.body <;> simp [received, writtenHeaders, Headers.without, lengthField, body]

/-! ## The parts of a message -/

theorem plain_lengthField (body : Bytes) : ∀ field ∈ lengthField body, Headers.Plain field := by
  intro field stated
  rw [lengthField] at stated
  split at stated
  · simp at stated
  · obtain rfl := List.mem_singleton.mp stated
    have digit {c : Char} (member : c ∈ Decimal.digits body.length) : c.isDigit = true :=
      Decimal.isDigit_of_mem_digits member
    exact {
      named := show Headers.contentLength ≠ [] by decide
      name_trimmed := show Text.trimmed Headers.contentLength = Headers.contentLength by decide
      name_uncut := show ':' ∉ Headers.contentLength by decide
      name_unbroken := show '\n' ∉ Headers.contentLength by decide
      value_trimmed :=
        Text.trimmed_eq_self fun c member => Text.isBlank_of_isDigit (digit member)
      value_unbroken := fun member => absurd (digit member) (by decide) }

/-- The fields that are written are plain, the stated length among them. -/
theorem WireSafe.plain (safe : request.WireSafe) :
    ∀ field ∈ request.writtenHeaders, Headers.Plain field := by
  intro field member
  rcases List.mem_append.mp member with kept | stated
  · exact safe.fields field (List.mem_filter.mp kept).1
  · exact plain_lengthField request.body field stated

theorem word_protocolVersion : Word protocolVersion := by decide

theorem WireSafe.parts (safe : request.WireSafe) :
    parts? (request.method ++ ' ' :: request.uri ++ ' ' :: request.version) =
      some (request.method, request.uri, request.version) := by
  have last : Word request.version := safe.version ▸ word_protocolVersion
  have pieces : Text.pieces ' ' (request.method ++ ' ' :: request.uri ++ ' ' :: request.version) =
      [request.method, request.uri, request.version] := by
    rw [List.append_assoc, List.cons_append, Text.pieces_append safe.method.unparted,
      Text.pieces_append safe.uri.unparted, Text.pieces_of_not_mem last.unparted]
  unfold parts?
  rw [pieces]
  simp [safe.method.filled, safe.uri.filled, last.filled]

theorem WireSafe.unbroken (safe : request.WireSafe) :
    '\n' ∉ request.method ++ ' ' :: request.uri ++ ' ' :: request.version := by
  have last : Word request.version := safe.version ▸ word_protocolVersion
  simp [safe.method.unbroken, safe.uri.unbroken, last.unbroken]

/-- Header lines are read back up to the empty line behind them. -/
theorem readHeaders_lines {fields : Headers} (plain : ∀ field ∈ fields, Headers.Plain field)
    (fit : ∀ field ∈ fields, (Utf8.encode (Headers.fieldLine field)).length ≤ Line.maxLine)
    {allowed : Nat} (few : fields.length ≤ allowed) (rest : Bytes) :
    readHeaders allowed (Utf8.encode (Headers.lines fields ++ "\r\n".toList) ++ rest) =
      .ok (fields, rest) := by
  induction fields generalizing allowed with
  | nil => exact readHeaders_ended allowed (Line.read_encode List.not_mem_nil (by decide) rest)
  | cons field fields ih =>
      simp only [List.forall_mem_cons] at plain fit
      obtain ⟨fewer, rfl⟩ : ∃ fewer, allowed = fewer + 1 :=
        Nat.exists_eq_add_one_of_ne_zero (by rintro rfl; simp at few)
      rw [Headers.encode_lines_cons]
      have opened := Line.read_encode plain.1.clean.unbroken fit.1
      exact readHeaders_field (by simp) (opened _) plain.1.read
        (ih plain.2 fit.2 (Nat.le_of_succ_le_succ few))

/-- The length that is read is the one of the body, whatever was stated before it was written. -/
theorem bodyLength_written (fits : request.body.length ≤ maxBody) :
    bodyLength request.writtenHeaders = .ok request.body.length := by
  have unstated : (request.headers.without Headers.contentLength).find?
      (fun field => Text.sameFolded field.1 Headers.contentLength) = none := by
    rw [List.find?_eq_none]
    intro field member
    simpa using (List.mem_filter.mp member).2
  have within : request.body.length ≤ maxLength := Nat.le_trans fits (by decide)
  cases body : request.body with
  | nil =>
      simp [bodyLength, Headers.get?, writtenHeaders, lengthField, body, unstated]
  | cons first others =>
      have folded : Text.sameFolded Headers.contentLength Headers.contentLength = true := by decide
      rw [body] at fits within
      simp only [bodyLength, Headers.get?, writtenHeaders, lengthField, body, List.isEmpty_cons,
        Bool.false_eq_true, ↓reduceIte, List.find?_append, unstated, Option.none_or,
        List.find?_singleton, folded, Option.map_some, Decimal.read?_digits within]
      rw [if_neg (Nat.not_lt.mpr fits)]

/-- The reader does not notice empty lines before a message. -/
theorem read_emptyLines (returns : List Bool) (input : Bytes) :
    read (returns.flatMap Line.emptyLine ++ input) = read input := by
  rw [read, Line.skipEmpty_emptyLines, ← read]

theorem encode_eq (request : Request) : request.encode =
    Utf8.encode (request.method ++ ' ' :: request.uri ++ ' ' :: request.version ++ "\r\n".toList) ++
      (Utf8.encode (request.writtenHeaders.lines ++ "\r\n".toList) ++ request.body) := by
  simp only [encode, requestLine, Utf8.encode_append, List.append_assoc]

/-- **A request is read back from its message.** -/
theorem read_encode (safe : request.WireSafe) (returns : List Bool) (rest : Bytes) :
    read (returns.flatMap Line.emptyLine ++ (request.encode ++ rest)) =
      .ok (some (request.received, rest)) := by
  have filled : request.method ++ ' ' :: request.uri ++ ' ' :: request.version ≠ [] := by
    simp
  have opened : Line.read (Line.skipEmpty (request.encode ++ rest)) =
        .ok (some (request.method ++ ' ' :: request.uri ++ ' ' :: request.version,
          Utf8.encode (request.writtenHeaders.lines ++ "\r\n".toList) ++
            (request.body ++ rest))) := by
    rw [encode_eq, List.append_assoc (Utf8.encode _), List.append_assoc (Utf8.encode _),
      Line.skipEmpty_encode safe.unbroken filled, Line.read_encode safe.unbroken safe.line_fits]
  have after : readAfterLine request.method request.uri protocolVersion
      (Utf8.encode (request.writtenHeaders.lines ++ "\r\n".toList) ++ (request.body ++ rest)) =
      .ok (request.received, rest) := by
    refine bind_eq_ok_iff.mpr
      ⟨_, readHeaders_lines safe.plain safe.fields_fit safe.few (request.body ++ rest), ?_⟩
    refine bind_eq_ok_iff.mpr ⟨_, bodyLength_written safe.body_fits, ?_⟩
    refine bind_eq_ok_iff.mpr ⟨_, readBody_append request.body rest, ?_⟩
    rw [← headers_received, ← safe.version]
    rfl
  rw [read_emptyLines]
  exact read_eq_some_iff.mpr ⟨_, _, _, _, opened, safe.version ▸ safe.parts, after⟩

/-! ## Whole streams -/

theorem length_le_of_readHeaders {allowed : Nat} {headers : Headers}
    (found : readHeaders allowed input = .ok (headers, rest)) : rest.length ≤ input.length := by
  induction allowed generalizing input headers with
  | zero =>
      obtain ⟨ended, _⟩ | ⟨_, _, _, _, _, spare, _⟩ := readHeaders_cases found
      · exact Nat.le_of_lt (Line.length_lt_of_read ended)
      · exact nomatch spare
  | succ allowed ih =>
      obtain ⟨ended, _⟩ | ⟨_, _, _, _, _, spare, _, opened, _, others, _⟩ := readHeaders_cases found
      · exact Nat.le_of_lt (Line.length_lt_of_read ended)
      · obtain rfl := Nat.succ.inj spare
        exact Nat.le_of_lt (Nat.lt_of_le_of_lt (ih others) (Line.length_lt_of_read opened))

/-- A request takes at least one byte. -/
theorem length_lt_of_read (found : read input = .ok (some (request, rest))) :
    rest.length < input.length := by
  obtain ⟨line, after, method, uri, opened, _, read⟩ := read_eq_some_iff.mp found
  obtain ⟨⟨headers, headed⟩, fields, read⟩ := bind_eq_ok_iff.mp read
  obtain ⟨length, stated, read⟩ := bind_eq_ok_iff.mp read
  obtain ⟨⟨body, left⟩, taken, read⟩ := bind_eq_ok_iff.mp read
  simp only [pure, Except.pure, Except.ok.injEq, Prod.mk.injEq] at read
  have skipped := Line.length_skipEmpty_le input
  have shorter := Line.length_lt_of_read opened
  have behind := length_le_of_readHeaders fields
  have split := congrArg List.length (eq_append_of_readBody taken).1
  rw [List.length_append, read.2] at split
  omega

/-- Reads one request after the other until no more is left. -/
def readAll (input : Bytes) : Except RelayError (List Request) :=
  match _ : read input with
  | .error error => .error error
  | .ok none => .ok []
  | .ok (some (request, rest)) => (readAll rest).map (request :: ·)
termination_by input.length
decreasing_by exact length_lt_of_read (by assumption)

theorem readAll_of_none (found : read input = .ok none) : readAll input = .ok [] := by
  unfold readAll
  split <;> simp_all

theorem readAll_of_some (found : read input = .ok (some (request, rest))) :
    readAll input = (readAll rest).map (request :: ·) := by
  rw [readAll]
  split <;> simp_all

/-- **A stream of requests is read back as it was written.** Each message may have empty lines
before it, and so may the end. By induction on the messages. -/
theorem readAll_encode {messages : List (List Bool × Request)}
    (safe : ∀ message ∈ messages, message.2.WireSafe) (returns : List Bool) :
    readAll (messages.flatMap (fun message =>
        message.1.flatMap Line.emptyLine ++ message.2.encode) ++ returns.flatMap Line.emptyLine) =
      .ok (messages.map fun message => message.2.received) := by
  induction messages with
  | nil =>
      refine readAll_of_none ?_
      have skipped := Line.skipEmpty_emptyLines returns []
      rw [List.append_nil] at skipped
      rw [List.flatMap_nil, List.nil_append, read, skipped]
      rfl
  | cons message messages ih =>
      rw [List.forall_mem_cons] at safe
      have first := read_encode safe.1 message.1 (messages.flatMap (fun message =>
        message.1.flatMap Line.emptyLine ++ message.2.encode) ++ returns.flatMap Line.emptyLine)
      rw [List.flatMap_cons, List.append_assoc, List.append_assoc, readAll_of_some first, ih safe.2]
      rfl

/-- A body that looks like a request, behind lengths that it does not have, and a request without
a body that states one. -/
def disguised : List (List Bool × Request) :=
  [([], { method := "ANNOUNCE".toList, uri := "/live".toList
          headers := [("content-length".toList, "7".toList), ("CSeq".toList, "1".toList),
            ("Content-Length".toList, "".toList)]
          body := Utf8.encode "\r\nPLAY /live RTSP/1.0\r\n\r\n".toList }),
    ([true, false], { method := "OPTIONS".toList, uri := "*".toList
                      headers := [("CONTENT-LENGTH".toList, "4".toList),
                        ("CSeq".toList, "2".toList)] })]

theorem readAll_encode_disguised :
    (∀ message ∈ disguised, message.2.WireSafe) ∧
    readAll (disguised.flatMap (fun message =>
        message.1.flatMap Line.emptyLine ++ message.2.encode) ++ [false].flatMap Line.emptyLine) =
      .ok [{ method := "ANNOUNCE".toList, uri := "/live".toList
             headers := [("CSeq".toList, "1".toList), ("Content-Length".toList, "25".toList)]
             body := Utf8.encode "\r\nPLAY /live RTSP/1.0\r\n\r\n".toList },
        { method := "OPTIONS".toList, uri := "*".toList
          headers := [("CSeq".toList, "2".toList)] }] := by
  have safe : ∀ message ∈ disguised, message.2.WireSafe := by decide +kernel
  exact ⟨safe, (readAll_encode safe [false]).trans (congrArg _ (by decide +kernel))⟩

end Request

end MediaRelay
