import MediaRelay.Proofs.Message.Wording

/-! # The grammar of requests

Which inputs hold a request, and what is wrong with the others. A request is written as any number
of empty lines, a request line, header lines, an empty line and a body (`Request.Written`). An input
that does not begin with such a message and does not consist of empty lines breaks a rule
somewhere: it is in order up to there, and the rule gives the error (`Request.Fault`). Every input
is of one of the three kinds (`Request.written_or_fault`), and the reader tells which
(`Request.read_exactly`).
-/

namespace MediaRelay

namespace Headers

/-- Header lines, one after the other. -/
inductive Block : Bytes → Headers → Prop
  | nil : Block [] []
  | cons {line block : Bytes} {text : Text} {field : Text × Text} {headers : Headers}
      (written : Line.Writes line text) (names : Names text field) (others : Block block headers) :
      Block (line ++ block) (field :: headers)

/-- What is wrong where the next header line or the empty line should stand, when so many more
header lines may come. They are counted before they are looked into. -/
inductive Fault (spare : Nat) : Bytes → RelayError → Prop
  | line {input : Bytes} {error : RelayError} (faulty : Line.Fault input error) :
      Fault spare input error
  | tooMany {line rest : Bytes} {text : Text} (none : spare = 0) (written : Line.Writes line text)
      (filled : text ≠ []) : Fault spare (line ++ rest) (.malformed .tooManyHeaders)
  | nameless {line rest : Bytes} {text : Text} (some : 0 < spare)
      (written : Line.Writes line text) (filled : text ≠ [])
      (unnamed : ∀ field, ¬ Names text field) : Fault spare (line ++ rest) (.malformed .header)

/-- The length of the body that header fields state: nothing stated is no body. -/
def States (headers : Headers) (length : Nat) : Prop :=
  (∀ field ∈ headers, Text.sameFolded field.1 contentLength = false) ∧ length = 0 ∨
    ∃ value, headers.First contentLength value ∧ Decimal.Spells value length

/-- What is wrong with the length that header fields state. -/
inductive Misstates (headers : Headers) : RelayError → Prop
  /-- It is no number, or none that 64 bits hold. -/
  | unknown {value : Text} (stated : headers.First contentLength value)
      (misspelled : ∀ length ≤ Request.maxLength, ¬ Decimal.Spells value length) :
      Misstates headers (.malformed .contentLength)
  | large {value : Text} {length : Nat} (stated : headers.First contentLength value)
      (spelled : Decimal.Spells value length) (known : length ≤ Request.maxLength)
      (large : Request.maxBody < length) : Misstates headers (.malformed .bodyTooLarge)

end Headers

namespace Request

variable {headers : Headers} {front block line input rest : Bytes}
  {text method uri version : Text} {spare : Nat} {error : RelayError}

/-! ## Header lines -/

theorem readHeaders_emptyLine (allowed : Nat) (returned : Bool) (rest : Bytes) :
    readHeaders allowed (Line.emptyLine returned ++ rest) = .ok ([], rest) :=
  readHeaders_ended allowed (Line.read_emptyLine returned rest)

/-- The lines of a block are taken, and reading goes on behind them. By induction on the block. -/
theorem readHeaders_block (fields : Headers.Block block headers) (spare : Nat) (input : Bytes) :
    readHeaders (headers.length + spare) (block ++ input) =
      (readHeaders spare input).map fun others => (headers ++ others.1, others.2) := by
  induction fields with
  | nil =>
      rw [List.length_nil, Nat.zero_add, List.nil_append]
      cases readHeaders spare input <;> rfl
  | cons written names _ ih =>
      rw [List.append_assoc, List.length_cons, Nat.add_right_comm,
        readHeaders_line names.filled (written.read _) (Headers.field?_eq_some_iff.mpr names), ih]
      cases readHeaders spare input <;> rfl

theorem readHeaders_fault (faulty : Headers.Fault spare input error) :
    readHeaders spare input = .error error := by
  cases faulty with
  | line faulty =>
      rw [readHeaders]
      by_cases nothing : input = []
      · rw [faulty.eq_truncated nothing, nothing]
        rfl
      · simp only [faulty.read nothing]
  | tooMany none written filled =>
      obtain ⟨first, text, rfl⟩ := List.exists_cons_of_ne_nil filled
      rw [readHeaders]
      simp only [written.read, none]
  | nameless some written filled unnamed =>
      obtain ⟨first, text, rfl⟩ := List.exists_cons_of_ne_nil filled
      obtain ⟨fewer, rfl⟩ := Nat.exists_eq_add_one.mpr some
      have refused : field? (first :: text) = .none :=
        Option.eq_none_iff_forall_ne_some.mpr fun field named =>
          unnamed field (Headers.field?_eq_some_iff.mp named)
      rw [readHeaders]
      simp only [written.read, refused]

/-- There stands an empty line, or a header line that is still allowed, or something is wrong. -/
theorem next_line (spare : Nat) (input : Bytes) :
    (∃ returned rest, input = Line.emptyLine returned ++ rest) ∨
      (0 < spare ∧ ∃ line text field rest, Line.Writes line text ∧ Headers.Names text field ∧
        input = line ++ rest) ∨
      ∃ error, Headers.Fault spare input error := by
  rcases Line.line_or_fault input with ⟨line, text, rest, written, rfl⟩ | ⟨error, faulty⟩
  · by_cases filled : text = []
    · subst filled
      obtain ⟨returned, rfl⟩ := Line.writes_nil_iff.mp written
      exact .inl ⟨returned, rest, rfl⟩
    right
    rcases Nat.eq_zero_or_pos spare with none | some
    · exact .inr ⟨_, .tooMany none written filled⟩
    by_cases named : ∃ field, Headers.Names text field
    · obtain ⟨field, names⟩ := named
      exact .inl ⟨some, line, text, field, rest, written, names, rfl⟩
    · exact .inr ⟨_, .nameless some written filled (not_exists.mp named)⟩
  · exact .inr (.inr ⟨error, .line faulty⟩)

/-- A block of header lines is followed by an empty line, or something is wrong behind it. By
induction on how many header lines are allowed. -/
theorem exists_block (allowed : Nat) (input : Bytes) :
    ∃ block headers behind, Headers.Block block headers ∧ headers.length ≤ allowed ∧
      input = block ++ behind ∧
      ((∃ returned rest, behind = Line.emptyLine returned ++ rest) ∨
        ∃ error, Headers.Fault (allowed - headers.length) behind error) := by
  induction allowed generalizing input with
  | zero =>
      rcases next_line 0 input with ended | ⟨some, -⟩ | faulty
      · exact ⟨[], [], input, .nil, Nat.le_refl 0, rfl, .inl ended⟩
      · exact absurd some (Nat.lt_irrefl 0)
      · exact ⟨[], [], input, .nil, Nat.le_refl 0, rfl, .inr faulty⟩
  | succ allowed ih =>
      rcases next_line (allowed + 1) input with
        ended | ⟨-, line, text, field, rest, written, names, rfl⟩ | faulty
      · exact ⟨[], [], input, .nil, Nat.zero_le _, rfl, .inl ended⟩
      · obtain ⟨block, headers, behind, fields, few, rfl, next⟩ := ih rest
        refine ⟨line ++ block, field :: headers, behind, .cons written names fields, ?_, ?_, ?_⟩
        · exact Nat.succ_le_succ few
        · rw [List.append_assoc]
        · rwa [List.length_cons, Nat.add_sub_add_right]
      · exact ⟨[], [], input, .nil, Nat.zero_le _, rfl, .inr faulty⟩

/-! ## The length of the body -/

theorem bodyLength_of_states {length : Nat} (stated : headers.States length)
    (small : length ≤ maxBody) : bodyLength headers = .ok length := by
  unfold bodyLength
  rcases stated with ⟨silent, rfl⟩ | ⟨value, stated, spelled⟩
  · rw [Headers.get?_eq_none_iff.mpr silent]
  · have known : length ≤ maxLength := Nat.le_trans small (by decide)
    rw [Headers.get?_eq_some_iff.mpr stated]
    simp only [Decimal.read?_eq_some_iff.mpr ⟨spelled, known⟩]
    rw [if_neg (Nat.not_lt.mpr small)]

theorem bodyLength_of_misstates (misstated : headers.Misstates error) :
    bodyLength headers = .error error := by
  unfold bodyLength
  cases misstated with
  | unknown stated misspelled =>
      rw [Headers.get?_eq_some_iff.mpr stated]
      simp only [Decimal.read?_eq_none_iff.mpr misspelled]
  | large stated spelled known large =>
      rw [Headers.get?_eq_some_iff.mpr stated]
      simp only [Decimal.read?_eq_some_iff.mpr ⟨spelled, known⟩]
      rw [if_pos large]

theorem states_or_misstates (headers : Headers) :
    (∃ length ≤ maxBody, headers.States length) ∨ ∃ error, headers.Misstates error := by
  cases stated : headers.get? Headers.contentLength with
  | none => exact .inl ⟨0, Nat.zero_le _, .inl ⟨Headers.get?_eq_none_iff.mp stated, rfl⟩⟩
  | some value =>
      rw [Headers.get?_eq_some_iff] at stated
      cases read : Decimal.read? maxLength value with
      | none => exact .inr ⟨_, .unknown stated (Decimal.read?_eq_none_iff.mp read)⟩
      | some length =>
          obtain ⟨spelled, known⟩ := Decimal.read?_eq_some_iff.mp read
          rcases Nat.lt_or_ge maxBody length with large | small
          · exact .inr ⟨_, .large stated spelled known large⟩
          · exact .inl ⟨length, small, .inr ⟨value, stated, spelled⟩⟩

/-! ## Messages and faults -/

/-- The front of a message, with its header lines up to some place. -/
inductive Begins : Bytes → Text → Text → Headers → Prop
  | mk (returns : List Bool) {line block : Bytes} {text method uri : Text} {headers : Headers}
      (written : Line.Writes line text) (parts : Parts text method uri protocolVersion)
      (fields : Headers.Block block headers) (few : headers.length ≤ maxHeaders) :
      Begins (returns.flatMap Line.emptyLine ++ (line ++ block)) method uri headers

/-- How a request may be written. -/
inductive Written : Request → Bytes → Prop
  | mk {front body : Bytes} {method uri : Text} {headers : Headers}
      (begun : Begins front method uri headers) (returned : Bool)
      (stated : headers.States body.length) (small : body.length ≤ maxBody) :
      Written ⟨method, uri, protocolVersion, headers, body⟩
        (front ++ (Line.emptyLine returned ++ body))

/-- The first rule that an input breaks, with the error that it is reported as. All that stands
before the place is in order. -/
inductive Fault : Bytes → RelayError → Prop
  /-- There is no line where the request line should stand. -/
  | line (returns : List Bool) {input : Bytes} {error : RelayError} (filled : input ≠ [])
      (faulty : Line.Fault input error) : Fault (returns.flatMap Line.emptyLine ++ input) error
  | parts (returns : List Bool) {line rest : Bytes} {text : Text}
      (written : Line.Writes line text) (filled : text ≠ [])
      (unparted : ∀ method uri version, ¬ Parts text method uri version) :
      Fault (returns.flatMap Line.emptyLine ++ (line ++ rest)) (.malformed .requestLine)
  | version (returns : List Bool) {line rest : Bytes} {text method uri version : Text}
      (written : Line.Writes line text) (parts : Parts text method uri version)
      (foreign : version ≠ protocolVersion) :
      Fault (returns.flatMap Line.emptyLine ++ (line ++ rest)) (.unsupportedVersion version)
  | headers {front input : Bytes} {method uri : Text} {headers : Headers} {error : RelayError}
      (begun : Begins front method uri headers)
      (faulty : Headers.Fault (maxHeaders - headers.length) input error) :
      Fault (front ++ input) error
  | length {front rest : Bytes} {method uri : Text} {headers : Headers} {error : RelayError}
      (begun : Begins front method uri headers) (returned : Bool)
      (misstated : headers.Misstates error) :
      Fault (front ++ (Line.emptyLine returned ++ rest)) error
  /-- The input ends before the body does. -/
  | body {front rest : Bytes} {method uri : Text} {headers : Headers} {length : Nat}
      (begun : Begins front method uri headers) (returned : Bool)
      (stated : headers.States length) (small : length ≤ maxBody) (short : rest.length < length) :
      Fault (front ++ (Line.emptyLine returned ++ rest)) .truncated

theorem read_line (returns : List Bool) (written : Line.Writes line text)
    (parts : Parts text method uri version) (rest : Bytes) :
    read (returns.flatMap Line.emptyLine ++ (line ++ rest)) =
      if version = protocolVersion then (readAfterLine method uri version rest).map some
      else .error (.unsupportedVersion version) := by
  rw [read_emptyLines, read, written.skipEmpty parts.filled, written.read]
  simp only [bind, Except.bind, parts?_eq_some_iff.mpr parts, ite_not]
  by_cases spoken : version = protocolVersion
  · simp only [spoken, ↓reduceIte]
    cases readAfterLine method uri protocolVersion rest <;> rfl
  · simp only [spoken, ↓reduceIte]
    rfl

/-- Behind the front of a message reading goes on with the header lines that are left. -/
theorem Begins.read (begun : Begins front method uri headers) (input : Bytes) :
    read (front ++ input) =
      (readHeaders (maxHeaders - headers.length) input).bind fun others =>
        (bodyLength (headers ++ others.1)).bind fun length =>
          (readBody length others.2).map fun taken =>
            some (⟨method, uri, protocolVersion, headers ++ others.1, taken.1⟩, taken.2) := by
  cases begun with
  | mk returns written parts fields few =>
      have block := readHeaders_block fields (maxHeaders - headers.length) input
      rw [Nat.add_sub_cancel' few] at block
      rw [List.append_assoc, List.append_assoc, read_line returns written parts, if_pos rfl,
        readAfterLine, block]
      cases readHeaders (maxHeaders - headers.length) input with
      | error error => rfl
      | ok others =>
          simp only [Except.map, bind, Except.bind]
          cases bodyLength (headers ++ others.1) with
          | error error => rfl
          | ok length =>
              simp only
              cases readBody length others.2 <;> rfl

theorem Begins.read_ended (begun : Begins front method uri headers) (returned : Bool)
    (rest : Bytes) :
    Request.read (front ++ (Line.emptyLine returned ++ rest)) =
      (bodyLength headers).bind fun length =>
        (readBody length rest).map fun taken =>
          some (⟨method, uri, protocolVersion, headers, taken.1⟩, taken.2) := by
  rw [begun.read, readHeaders_emptyLine]
  simp only [Except.bind, List.append_nil]

theorem read_nothing (returns : List Bool) :
    read (returns.flatMap Line.emptyLine) = .ok none := by
  have skipped := read_emptyLines returns []
  rw [List.append_nil] at skipped
  rw [skipped]
  rfl

theorem Written.read {request : Request} {message : Bytes} (written : request.Written message)
    (rest : Bytes) : Request.read (message ++ rest) = .ok (some (request, rest)) := by
  cases written with
  | mk begun returned stated small =>
      rw [List.append_assoc, List.append_assoc, begun.read_ended,
        bodyLength_of_states stated small]
      simp only [Except.bind, readBody_append, Except.map]

theorem Fault.read (faulty : Fault input error) : Request.read input = .error error := by
  cases faulty with
  | line returns filled faulty =>
      rw [read_emptyLines, Request.read, faulty.skipEmpty filled, faulty.read filled]
      rfl
  | parts returns written filled unparted =>
      have refused : parts? _ = none := Option.eq_none_iff_forall_ne_some.mpr
        fun _ parted => unparted _ _ _ (parts?_eq_some_iff.mp parted)
      rw [read_emptyLines, Request.read, written.skipEmpty filled, written.read]
      simp only [bind, Except.bind, refused]
      rfl
  | version returns written parts foreign =>
      rw [read_line returns written parts, if_neg foreign]
  | headers begun faulty =>
      rw [begun.read, readHeaders_fault faulty]
      rfl
  | length begun returned misstated =>
      rw [begun.read_ended, bodyLength_of_misstates misstated]
      rfl
  | body begun returned stated small short =>
      have cut : readBody _ _ = .error .truncated :=
        if_pos ((List.length_take_le' _ _).trans_lt short)
      rw [begun.read_ended, bodyLength_of_states stated small]
      simp only [Except.bind, cut, Except.map]

theorem Begins.written_or_fault (begun : Begins front method uri headers) (returned : Bool)
    (rest : Bytes) :
    (∃ request message behind, Written request message ∧
        front ++ (Line.emptyLine returned ++ rest) = message ++ behind) ∨
      ∃ error, Fault (front ++ (Line.emptyLine returned ++ rest)) error := by
  rcases states_or_misstates headers with ⟨length, small, stated⟩ | ⟨error, misstated⟩
  · rcases Nat.lt_or_ge rest.length length with short | long
    · exact .inr ⟨_, .body begun returned stated small short⟩
    · have taken : (rest.take length).length = length := List.length_take_of_le long
      refine .inl ⟨_, _, rest.drop length,
        .mk begun returned (taken.symm ▸ stated) (taken.symm ▸ small), ?_⟩
      simp only [List.append_assoc, List.take_append_drop]
  · exact .inr ⟨error, .length begun returned misstated⟩

/-- **Every input is of one of three kinds.** -/
theorem written_or_fault (input : Bytes) :
    (∃ returns : List Bool, input = returns.flatMap Line.emptyLine) ∨
      (∃ request message rest, Written request message ∧ input = message ++ rest) ∨
      ∃ error, Fault input error := by
  obtain ⟨returns, same⟩ := Line.exists_emptyLines input
  by_cases nothing : Line.skipEmpty input = []
  · exact .inl ⟨returns, by rwa [nothing, List.append_nil] at same⟩
  right
  rcases Line.line_or_fault (Line.skipEmpty input) with
    ⟨line, text, behind, written, opened⟩ | ⟨error, faulty⟩
  · have filled := Line.filled_of_skipEmpty opened written
    rw [opened] at same
    subst same
    by_cases parted : ∃ method uri version, Parts text method uri version
    · obtain ⟨method, uri, version, parts⟩ := parted
      by_cases spoken : version = protocolVersion
      · subst spoken
        obtain ⟨block, headers, after, fields, few, rfl, next⟩ := exists_block maxHeaders behind
        have begun := Begins.mk returns written parts fields few
        rw [← List.append_assoc line, ← List.append_assoc]
        rcases next with ⟨returned, rest, rfl⟩ | ⟨error, faulty⟩
        · exact begun.written_or_fault returned rest
        · exact .inr ⟨error, .headers begun faulty⟩
      · exact .inr ⟨_, .version returns written parts spoken⟩
    · simp only [not_exists] at parted
      exact .inr ⟨_, .parts returns written filled parted⟩
  · exact .inr ⟨error, same ▸ .line returns nothing faulty⟩

/-! ## What the reader tells -/

variable {request : Request}

theorem read_cases (input : Bytes) :
    (read input = .ok none ∧ ∃ returns : List Bool, input = returns.flatMap Line.emptyLine) ∨
      (∃ request message rest, read input = .ok (some (request, rest)) ∧
        Written request message ∧ input = message ++ rest) ∨
      ∃ error, read input = .error error ∧ Fault input error := by
  rcases written_or_fault input with ⟨returns, rfl⟩ | ⟨request, message, rest, written, rfl⟩ |
    ⟨error, faulty⟩
  · exact .inl ⟨read_nothing returns, returns, rfl⟩
  · exact .inr (.inl ⟨request, message, rest, written.read rest, written, rfl⟩)
  · exact .inr (.inr ⟨error, faulty.read, faulty⟩)

theorem read_eq_none_iff : read input = .ok none ↔
    ∃ returns : List Bool, input = returns.flatMap Line.emptyLine := by
  constructor
  · intro found
    rcases read_cases input with ⟨-, empty⟩ | ⟨_, _, _, told, -⟩ | ⟨_, told, -⟩
    · exact empty
    all_goals
      rw [told] at found
      cases found
  · rintro ⟨returns, rfl⟩
    exact read_nothing returns

theorem read_eq_some_iff_written : read input = .ok (some (request, rest)) ↔
    ∃ message, request.Written message ∧ input = message ++ rest := by
  constructor
  · intro found
    rcases read_cases input with ⟨told, -⟩ | ⟨_, message, _, told, written, same⟩ | ⟨_, told, -⟩
    all_goals
      rw [told] at found
      cases found
    exact ⟨message, written, same⟩
  · rintro ⟨message, written, rfl⟩
    exact written.read rest

theorem read_eq_error_iff : read input = .error error ↔ Fault input error := by
  constructor
  · intro found
    rcases read_cases input with ⟨told, -⟩ | ⟨_, _, _, told, -⟩ | ⟨_, told, faulty⟩
    all_goals
      rw [told] at found
      cases found
    exact faulty
  · exact Fault.read

/-- **The reader takes exactly what the grammar allows.** It returns a request and the rest if and
only if the input is a message of that request and the rest, it returns nothing if and only if the
input consists of empty lines, and it fails with the error of the first rule that is broken. -/
theorem read_exactly (input : Bytes) :
    (∀ request rest, read input = .ok (some (request, rest)) ↔
        ∃ message, Written request message ∧ input = message ++ rest) ∧
      (read input = .ok none ↔ ∃ returns : List Bool, input = returns.flatMap Line.emptyLine) ∧
      ∀ error, read input = .error error ↔ Fault input error :=
  ⟨fun _ _ => read_eq_some_iff_written, read_eq_none_iff, fun _ => read_eq_error_iff⟩

end Request

end MediaRelay
