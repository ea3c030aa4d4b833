import MediaRelay.Proofs.Message.Grammar
import Mathlib.Data.Nat.Digits.Defs

/-! # Encoding what was read

A request may be written in many ways, and `Request.encode` knows one: a blank behind each colon, a
carriage return before each line feed, and the length of the body last. A request that was read is
read back from its own encoding with nothing but the stated length changed, as long as no line has
become too long for it (`Request.parse_encode_of_parse`): a line may be two bytes longer when it is
written than it was when it was read.
-/

namespace MediaRelay

theorem Utf8.length_encode {text : Text} (ascii : text.all (·.toNat < 0x80) = true) :
    (encode text).length = text.length := by
  induction text with
  | nil => rfl
  | cons c text ih =>
      rw [List.all_cons, Bool.and_eq_true, decide_eq_true_eq] at ascii
      have single : (charBytes c).length = 1 := by
        rw [charBytes, if_pos ascii.1]
        rfl
      rw [encode_cons, List.length_append, single, ih ascii.2, List.length_cons, Nat.add_comm]

theorem Decimal.ascii_digits (number : Nat) : (digits number).all (·.toNat < 0x80) = true := by
  rw [List.all_eq_true]
  intro c member
  have between := Char.isDigit_iff_toNat.mp (isDigit_of_mem_digits member)
  exact decide_eq_true (between.2.trans_lt (by decide))

namespace Text

theorem sameFolded_congr {first second : Text} (same : sameFolded first second = true)
    (other : Text) : sameFolded first other = sameFolded second other := by
  rw [sameFolded, sameFolded, beq_iff_eq.mp same]

theorem trimmed_infix (text : Text) : trimmed text <:+: text := by
  have kept : trimmed text <+: text.dropWhile isBlank := List.rdropWhile_prefix isBlank _
  exact kept.isInfix.trans (List.dropWhile_suffix isBlank).isInfix

theorem length_encode_trimmed_le (text : Text) :
    (Utf8.encode (trimmed text)).length ≤ (Utf8.encode text).length := by
  obtain ⟨before, behind, whole⟩ := trimmed_infix text
  have parts := congrArg (fun text => (Utf8.encode text).length) whole
  simp only [Utf8.encode_append, List.length_append] at parts
  omega

end Text

namespace Line

variable {input line rest : Bytes} {text : Text}

theorem Writes.unbroken (written : Writes line text) : '\n' ∉ text :=
  unbroken_of_read (written.read [])

/-- No line of the input comes nearer to the limit than two bytes. -/
def Roomy (input : Bytes) : Prop :=
  ∀ stretch, stretch <:+: input → lineFeed ∉ stretch → stretch.length + 3 ≤ maxLine

theorem Roomy.of_infix (roomy : Roomy input) (part : line <:+: input) : Roomy line :=
  fun stretch among => roomy stretch (among.trans part)

theorem Writes.length_encode_le (written : Writes line text) (roomy : Roomy line) :
    (Utf8.encode text).length + 3 ≤ maxLine := by
  obtain ⟨content, rfl, unbroken, -, spelled⟩ := written
  have kept : (withoutReturn content).length ≤ content.length := by
    unfold withoutReturn
    split
    · exact (List.dropLast_sublist content).length_le
    · exact Nat.le_refl _
  have short := roomy content (List.prefix_append content _).isInfix unbroken
  rw [← spelled]
  omega

theorem writes_encode (unbroken : '\n' ∉ text)
    (fits : (Utf8.encode (text ++ "\r\n".toList)).length ≤ maxLine) :
    Writes (Utf8.encode (text ++ "\r\n".toList)) text := by
  refine ⟨Utf8.encode text ++ [carriageReturn], ?_, not_mem_returned unbroken, fits,
    withoutReturn_append _⟩
  have ended := encode_line text []
  rwa [List.append_nil] at ended

theorem fault_encode (unbroken : '\n' ∉ text)
    (long : maxLine < (Utf8.encode (text ++ "\r\n".toList)).length) (rest : Bytes) :
    Fault (Utf8.encode (text ++ "\r\n".toList) ++ rest) (.malformed .lineTooLong) := by
  have full : maxLine ≤ (Utf8.encode text ++ [carriageReturn]).length := by
    have length := congrArg List.length (encode_line text [])
    simp only [List.append_nil, List.length_append, List.length_cons, List.length_nil]
      at length long ⊢
    omega
  rw [encode_line]
  refine .long ?_ (Nat.le_trans full (by simp))
  rw [List.take_append_of_le_length full]
  exact fun member => not_mem_returned unbroken (List.mem_of_mem_take member)

end Line

namespace Headers

variable {headers : Headers} {block : Bytes} {line : Text} {field : Text × Text}

/-- Fields of other names may come and go. -/
theorem get?_without (headers : Headers) {name other : Text}
    (apart : Text.sameFolded name other = false) :
    (headers.without other).get? name = headers.get? name := by
  have kept (field : Text × Text) :
      (!Text.sameFolded field.1 other && Text.sameFolded field.1 name) =
        Text.sameFolded field.1 name := by
    by_cases same : Text.sameFolded field.1 name = true
    · rw [Text.sameFolded_congr same, apart, same]
      rfl
    · simp [same]
  rw [get?, without, List.find?_filter]
  simp only [kept, get?, Bool.decide_and, Bool.decide_eq_true]

/-- A field that was read is written so that it is read back. -/
theorem Names.plain (names : Names line field) (unbroken : '\n' ∉ line) : Plain field := by
  obtain ⟨name, value, rfl, uncut, filled, rfl⟩ := names
  rw [List.mem_append, List.mem_cons, not_or, not_or] at unbroken
  exact {
    named := filled
    name_trimmed := Text.trimmed_trimmed name
    name_uncut := fun member => uncut (Text.mem_of_mem_trimmed member)
    name_unbroken := fun member => unbroken.1 (Text.mem_of_mem_trimmed member)
    value_trimmed := Text.trimmed_trimmed value
    value_unbroken := fun member => unbroken.2.2 (Text.mem_of_mem_trimmed member) }

theorem Block.plain (fields : Block block headers) : ∀ field ∈ headers, Plain field := by
  induction fields with
  | nil => exact fun _ member => absurd member List.not_mem_nil
  | cons written names _ ih => exact List.forall_mem_cons.mpr ⟨names.plain written.unbroken, ih⟩

/-- A header line grows by a blank, a carriage return and a line feed at most. -/
theorem Names.length_fieldLine_le (names : Names line field) :
    (Utf8.encode (fieldLine field)).length ≤ (Utf8.encode line).length + 3 := by
  obtain ⟨name, value, rfl, -, -, rfl⟩ := names
  have shorter := Text.length_encode_trimmed_le name
  have shorter' := Text.length_encode_trimmed_le value
  have colon : (Utf8.charBytes ':').length = 1 := by decide
  have blank : (Utf8.encode ": ".toList).length = 2 := by decide
  have ending : (Utf8.encode "\r\n".toList).length = 2 := by decide
  simp only [fieldLine, Utf8.encode_append, Utf8.encode_cons, List.length_append, colon, blank,
    ending]
  omega

theorem Block.length_fieldLine_le (fields : Block block headers) (roomy : Line.Roomy block) :
    ∀ field ∈ headers, (Utf8.encode (fieldLine field)).length ≤ Line.maxLine := by
  induction fields with
  | nil => exact fun _ member => absurd member List.not_mem_nil
  | cons written names _ ih =>
      have first := written.length_encode_le (roomy.of_infix (List.prefix_append _ _).isInfix)
      refine List.forall_mem_cons.mpr ⟨names.length_fieldLine_le.trans first, ?_⟩
      exact ih (roomy.of_infix (List.suffix_append _ _).isInfix)

/-- The length of a body is short enough to be stated. -/
theorem length_fieldLine_lengthField_le {body : Bytes} (small : body.length ≤ Request.maxBody) :
    ∀ field ∈ Request.lengthField body,
      (Utf8.encode (fieldLine field)).length ≤ Line.maxLine := by
  intro field member
  rw [Request.lengthField] at member
  split at member
  · exact absurd member List.not_mem_nil
  · obtain rfl := List.mem_singleton.mp member
    have digits : (Decimal.digits body.length).length ≤ 5 :=
      Nat.toDigits_length 10 _ 5 (by decide) (small.trans_lt (by decide))
    have ascii :
        (fieldLine (contentLength, Decimal.digits body.length)).all (·.toNat < 0x80) = true := by
      simp only [fieldLine, List.all_append, Decimal.ascii_digits]
      decide
    rw [Utf8.length_encode ascii]
    have named : contentLength.length = 14 := by decide
    have blank : ": ".toList.length = 2 := by decide
    have ending : "\r\n".toList.length = 2 := by decide
    have limit : Line.maxLine = 4096 := rfl
    simp only [fieldLine, List.length_append, named, blank, ending]
    omega

end Headers

namespace Request

variable {message rest : Bytes} {request : Request}

/-- No line of a request is too long once it is written. -/
@[mk_iff]
structure LinesFit (request : Request) : Prop where
  opening : (Utf8.encode request.requestLine).length ≤ Line.maxLine
  fields : ∀ field ∈ request.writtenHeaders,
    (Utf8.encode (Headers.fieldLine field)).length ≤ Line.maxLine

instance (request : Request) : Decidable request.LinesFit :=
  decidable_of_iff' _ (linesFit_iff request)

theorem parse_eq_ok_iff : parse message = .ok request ↔
    ∃ rest, read message = .ok (some (request, rest)) := by
  unfold parse
  cases read message with
  | error error => simp [bind, Except.bind]
  | ok found =>
      cases found with
      | none => simp [bind, Except.bind, throw, throwThe, MonadExceptOf.throw]
      | some found => simp [bind, Except.bind, pure, Except.pure, Prod.ext_iff]

theorem parse_of_fault {error : RelayError} (faulty : Fault message error) :
    parse message = .error error := by
  rw [parse, faulty.read]
  rfl

/-! ## What was read is safe on the wire -/

/-- The field that is written for the body takes the place of one that stated its length. -/
theorem length_writtenHeaders_le (stated : request.headers.States request.body.length) :
    request.writtenHeaders.length ≤ request.headers.length := by
  rw [writtenHeaders, List.length_append, lengthField]
  rcases stated with ⟨-, empty⟩ | ⟨value, ⟨before, spelling, behind, whole, same, -⟩, -⟩
  · rw [List.eq_nil_of_length_eq_zero empty]
    exact List.length_filter_le _ _
  · have left : (request.headers.without Headers.contentLength).length < request.headers.length := by
      rw [Headers.without, List.length_filter_lt_length_iff_exists, whole]
      exact ⟨(spelling, value), by simp, by simp [same]⟩
    split
    · exact Nat.le_of_lt left
    · exact left

theorem Written.unbroken (written : request.Written message) :
    '\n' ∉ request.method ++ ' ' :: request.uri ++ ' ' :: request.version := by
  obtain ⟨⟨returns, line, parts, fields, few⟩, returned, stated, small⟩ := written
  exact parts.whole ▸ line.unbroken

theorem Written.parts (written : request.Written message) :
    Parts (request.method ++ ' ' :: request.uri ++ ' ' :: request.version) request.method
      request.uri protocolVersion := by
  obtain ⟨⟨returns, line, parts, fields, few⟩, returned, stated, small⟩ := written
  exact parts.whole ▸ parts

theorem Written.plain (written : request.Written message) :
    ∀ field ∈ request.writtenHeaders, Headers.Plain field := by
  obtain ⟨⟨returns, line, parts, fields, few⟩, returned, stated, small⟩ := written
  intro field member
  rcases List.mem_append.mp member with kept | stated
  · exact fields.plain field (List.mem_filter.mp kept).1
  · exact plain_lengthField _ field stated

theorem Written.few (written : request.Written message) :
    request.writtenHeaders.length ≤ maxHeaders := by
  obtain ⟨⟨returns, line, parts, fields, few⟩, returned, stated, small⟩ := written
  exact (length_writtenHeaders_le stated).trans few

theorem Written.linesFit {head : Bytes} (written : request.Written (head ++ request.body))
    (roomy : Line.Roomy head) : request.LinesFit := by
  generalize same : head ++ request.body = message at written
  obtain ⟨⟨returns, line, parts, fields, few⟩, returned, stated, small⟩ := written
  rw [← List.append_assoc, List.append_cancel_right_eq] at same
  subst same
  have lines := roomy.of_infix
    ((List.suffix_append _ _).isInfix.trans (List.prefix_append _ _).isInfix)
  have room := line.length_encode_le (lines.of_infix (List.prefix_append _ _).isInfix)
  have ending : (Utf8.encode "\r\n".toList).length = 2 := by decide
  refine ⟨?_, fun field member => ?_⟩
  · rw [requestLine, Utf8.encode_append, List.length_append, ← parts.whole, ending]
    omega
  · rcases List.mem_append.mp member with kept | stated
    · exact fields.length_fieldLine_le (lines.of_infix (List.suffix_append _ _).isInfix) field
        (List.mem_filter.mp kept).1
    · exact Headers.length_fieldLine_lengthField_le small field stated

theorem Written.wireSafe (written : request.Written message) (fit : request.LinesFit) :
    request.WireSafe := by
  have unbroken := written.unbroken
  have few := written.few
  obtain ⟨⟨returns, line, parts, fields, _⟩, returned, stated, small⟩ := written
  simp only [List.mem_append, List.mem_cons, not_or] at unbroken
  exact {
    version := rfl
    method := ⟨parts.method.1, parts.method.2, unbroken.1.1⟩
    uri := ⟨parts.uri.1, parts.uri.2, unbroken.1.2.2⟩
    fields := fields.plain
    line_fits := fit.opening
    fields_fit := fit.fields
    few := few
    body_fits := small }

/-! ## A line that is too long -/

/-- The header lines before the first one that is too long are in order. By induction on the
fields. -/
theorem exists_long_line {fields : Headers} (plain : ∀ field ∈ fields, Headers.Plain field)
    (long : ∃ field ∈ fields, Line.maxLine < (Utf8.encode (Headers.fieldLine field)).length)
    (rest : Bytes) :
    ∃ block headers behind, Headers.Block block headers ∧ headers.length ≤ fields.length ∧
      Utf8.encode (Headers.lines fields ++ "\r\n".toList) ++ rest = block ++ behind ∧
      Line.Fault behind (.malformed .lineTooLong) := by
  induction fields with
  | nil => simp at long
  | cons field fields ih =>
      rw [List.forall_mem_cons] at plain
      rw [Headers.encode_lines_cons]
      rcases Nat.lt_or_ge Line.maxLine (Utf8.encode (Headers.fieldLine field)).length with
        overlong | fits
      · exact ⟨[], [], _, .nil, Nat.zero_le _, rfl,
          Line.fault_encode plain.1.clean.unbroken overlong _⟩
      · have later : ∃ field ∈ fields,
            Line.maxLine < (Utf8.encode (Headers.fieldLine field)).length := by
          obtain ⟨other, among, overlong⟩ := long
          rcases List.mem_cons.mp among with rfl | among
          · exact absurd overlong (Nat.not_lt.mpr fits)
          · exact ⟨other, among, overlong⟩
        obtain ⟨block, headers, behind, written, few, whole, faulty⟩ := ih plain.2 later
        have line := Line.writes_encode plain.1.clean.unbroken fits
        have names := Headers.field?_eq_some_iff.mp plain.1.read
        refine ⟨_, _, behind, .cons line names written, Nat.succ_le_succ few, ?_, faulty⟩
        rw [whole]
        exact (List.append_assoc ..).symm

/-- The first line that is too long is what is wrong with the encoding. -/
theorem Written.fault_encode (written : request.Written message) (unfit : ¬ request.LinesFit) :
    Fault request.encode (.malformed .lineTooLong) := by
  rw [encode_eq]
  by_cases opening : (Utf8.encode request.requestLine).length ≤ Line.maxLine
  · have long : ∃ field ∈ request.writtenHeaders,
        Line.maxLine < (Utf8.encode (Headers.fieldLine field)).length := by
      by_contra short
      simp only [not_exists, not_and, Nat.not_lt] at short
      exact unfit ⟨opening, short⟩
    obtain ⟨block, headers, behind, fields, few, whole, faulty⟩ :=
      exists_long_line written.plain long request.body
    have begun : Begins ([].flatMap Line.emptyLine ++ (_ ++ block)) request.method request.uri
        headers :=
      .mk [] (Line.writes_encode written.unbroken opening) written.parts fields
        (few.trans written.few)
    rw [whole, ← List.append_assoc]
    exact .headers begun (.line faulty)
  · refine .line [] ?_ (Line.fault_encode written.unbroken (Nat.not_le.mp opening) _)
    exact List.append_ne_nil_of_left_ne_nil (Utf8.encode_ne_nil (by simp)) _

/-! ## What is kept -/

theorem without_lengthField (body : Bytes) :
    Headers.without (lengthField body) Headers.contentLength = [] := by
  unfold lengthField
  split <;> rfl

theorem without_writtenHeaders (request : Request) :
    request.writtenHeaders.without Headers.contentLength =
      request.headers.without Headers.contentLength := by
  rw [writtenHeaders, Headers.without_append, Headers.without_without, without_lengthField,
    List.append_nil]

theorem writtenHeaders_received (request : Request) :
    request.received.writtenHeaders = request.writtenHeaders := by
  rw [writtenHeaders, headers_received, without_writtenHeaders]
  rfl

theorem encode_received (request : Request) : request.received.encode = request.encode := by
  rw [encode, encode, writtenHeaders_received]
  rfl

theorem cseq?_received (request : Request) : request.received.cseq? = request.cseq? := by
  have apart : Text.sameFolded "CSeq".toList Headers.contentLength = false := by decide
  have kept (headers : Headers) := Headers.get?_without headers apart
  rw [cseq?, cseq?, header?, header?, headers_received, ← kept, without_writtenHeaders, kept]

/-- **A request that was read is read back from its encoding**, with everything but the stated
length as it was, if every line of the encoding fits. If one does not, reading fails at it. All
lines fit if nothing that was read before the body came nearer to the limit than two bytes. -/
theorem parse_encode_of_parse (parsed : parse message = .ok request) :
    (request.LinesFit → ∃ again, parse request.encode = .ok again ∧
        again.method = request.method ∧ again.uri = request.uri ∧
        again.version = request.version ∧ again.body = request.body ∧
        again.cseq? = request.cseq? ∧
        again.headers.without Headers.contentLength =
          request.headers.without Headers.contentLength ∧
        again.encode = request.encode) ∧
      (¬ request.LinesFit → parse request.encode = .error (.malformed .lineTooLong)) ∧
      ∀ head rest, read message = .ok (some (request, rest)) →
        message = head ++ request.body ++ rest → Line.Roomy head → request.LinesFit := by
  obtain ⟨rest, read⟩ := parse_eq_ok_iff.mp parsed
  obtain ⟨front, written, rfl⟩ := read_eq_some_iff_written.mp read
  refine ⟨fun fit => ?_, fun unfit => parse_of_fault (written.fault_encode unfit), ?_⟩
  · have back := read_encode (written.wireSafe fit) [] []
    rw [List.flatMap_nil, List.nil_append, List.append_nil] at back
    refine ⟨request.received, parse_eq_ok_iff.mpr ⟨[], back⟩, rfl, rfl, rfl, rfl,
      cseq?_received request, ?_, encode_received request⟩
    rw [headers_received, without_writtenHeaders]
  · intro head behind taken same roomy
    rw [read] at taken
    cases taken
    rw [List.append_cancel_right_eq] at same
    exact (same ▸ written).linesFit roomy

/-- A request in another spelling: no blank behind the colons, lengths where they please, and hardly
a carriage return. -/
def respelled : Bytes :=
  Utf8.encode "\nANNOUNCE /lö RTSP/1.0\ncontent-length:+002\ncseq:\t7 \r\nX:\nContent-Length: 9\n\nabc".toList

theorem parse_encode_of_parse_respelled :
    parse respelled = .ok ⟨"ANNOUNCE".toList, "/lö".toList, protocolVersion,
        [("content-length".toList, "+002".toList), ("cseq".toList, "7".toList),
          ("X".toList, []), ("Content-Length".toList, "9".toList)], [97, 98]⟩ ∧
      ∃ again, parse (encode ⟨"ANNOUNCE".toList, "/lö".toList, protocolVersion,
        [("content-length".toList, "+002".toList), ("cseq".toList, "7".toList),
          ("X".toList, []), ("Content-Length".toList, "9".toList)], [97, 98]⟩) = .ok again ∧
        again.headers.without Headers.contentLength =
          [("cseq".toList, "7".toList), ("X".toList, [])] := by
  have parsed : parse respelled = .ok ⟨"ANNOUNCE".toList, "/lö".toList, protocolVersion,
      [("content-length".toList, "+002".toList), ("cseq".toList, "7".toList),
        ("X".toList, []), ("Content-Length".toList, "9".toList)], [97, 98]⟩ := by decide +kernel
  obtain ⟨again, back, -, -, -, -, -, kept, -⟩ :=
    (parse_encode_of_parse parsed).1 (by decide +kernel)
  exact ⟨parsed, again, back, kept.trans (by decide +kernel)⟩

/-! ## A line that is read and not read back -/

/-- A request without header fields may be written without carriage returns. -/
theorem written_bare {method uri : Text} (verb : Word method) (target : Word uri)
    (short : (Utf8.encode (method ++ ' ' :: uri ++ ' ' :: protocolVersion)).length < Line.maxLine) :
    Written ⟨method, uri, protocolVersion, [], []⟩
      (Utf8.encode (method ++ ' ' :: uri ++ ' ' :: protocolVersion) ++
        [Line.lineFeed, Line.lineFeed]) := by
  have last := word_protocolVersion
  have unbroken : '\n' ∉ method ++ ' ' :: uri ++ ' ' :: protocolVersion := by
    simp [verb.unbroken, target.unbroken, last.unbroken]
  have line : Line.Writes
      (Utf8.encode (method ++ ' ' :: uri ++ ' ' :: protocolVersion) ++ [Line.lineFeed])
      (method ++ ' ' :: uri ++ ' ' :: protocolVersion) := by
    refine ⟨_, rfl, Utf8.not_mem_encode (by decide) unbroken, ?_, ?_⟩
    · rw [List.length_append]
      exact short
    · -- The version ends with a zero, so there is no carriage return to drop.
      have ending : (Utf8.encode (method ++ ' ' :: uri ++ ' ' :: protocolVersion)).getLast? =
          some 48 := by
        rw [Utf8.encode_append, Utf8.encode_cons, List.getLast?_append, List.getLast?_append]
        rfl
      rw [Line.withoutReturn, ending, if_neg (by decide)]
  have parts : Parts (method ++ ' ' :: uri ++ ' ' :: protocolVersion) method uri protocolVersion :=
    ⟨rfl, ⟨verb.filled, verb.unparted⟩, ⟨target.filled, target.unparted⟩,
      ⟨last.filled, last.unparted⟩⟩
  have silent : Headers.States [] ([] : Bytes).length := .inl ⟨by simp, rfl⟩
  have written := Written.mk (.mk [] line parts .nil (Nat.zero_le _)) false silent (Nat.zero_le _)
  simpa [Line.emptyLine] using written

/-- Nothing but the carriage return is too much for a request line that takes up all the room. -/
theorem not_read_back {method uri : Text} (verb : Word method) (target : Word uri)
    (tight : (Utf8.encode (method ++ ' ' :: uri ++ ' ' :: protocolVersion)).length + 1 =
      Line.maxLine) :
    parse (Utf8.encode (method ++ ' ' :: uri ++ ' ' :: protocolVersion) ++
        [Line.lineFeed, Line.lineFeed]) = .ok ⟨method, uri, protocolVersion, [], []⟩ ∧
      parse (encode ⟨method, uri, protocolVersion, [], []⟩) = .error (.malformed .lineTooLong) := by
  have written := written_bare verb target (Nat.lt_of_succ_le tight.le)
  constructor
  · have read := written.read []
    rw [List.append_nil] at read
    exact parse_eq_ok_iff.mpr ⟨[], read⟩
  · refine parse_of_fault (written.fault_encode fun fit => ?_)
    have ending : (Utf8.encode "\r\n".toList).length = 2 := by decide
    have opening : (Utf8.encode (method ++ ' ' :: uri ++ ' ' :: protocolVersion ++
        "\r\n".toList)).length ≤ Line.maxLine := fit.opening
    rw [Utf8.encode_append, List.length_append, ending] at opening
    omega

theorem word_replicate (n : Nat) : Word (List.replicate (n + 1) 'a') :=
  ⟨by simp [List.replicate_succ], by simp, by simp⟩

theorem stretched_not_read_back :
    parse (Utf8.encode (['A'] ++ ' ' :: List.replicate 4084 'a' ++ ' ' :: protocolVersion) ++
        [Line.lineFeed, Line.lineFeed]) =
        .ok ⟨['A'], List.replicate 4084 'a', protocolVersion, [], []⟩ ∧
      parse (encode ⟨['A'], List.replicate 4084 'a', protocolVersion, [], []⟩) =
        .error (.malformed .lineTooLong) := by
  have ascii (n : Nat) : (['A'] ++ ' ' :: List.replicate n 'a' ++ ' ' :: protocolVersion).all
      (·.toNat < 0x80) = true := by
    simp only [List.all_append, List.all_cons, List.all_replicate]
    split <;> decide
  refine not_read_back (by decide) (word_replicate 4083) ?_
  rw [Utf8.length_encode (ascii 4084)]
  simp only [List.length_append, List.length_cons, List.length_replicate]
  rfl

end Request

end MediaRelay
