import MediaRelay.Proofs.Message.Contents
import MediaRelay.Proofs.Message.Extents

/-! # The wording of lines, numbers and fields

How the small parts of a message may be written, said without the readers, and that each reader
takes exactly what is written so. A line is what stands before a line feed that comes in time
(`Line.Writes`); where no line stands, a `Line.Fault` says what is wrong, and reading reports it
(`Line.Fault.read`). A request line has three words (`Request.Parts`), a header line a name
and a value (`Headers.Names`), a number an optional sign and digits (`Decimal.Spells`). Of several
fields with one name the first counts (`Headers.First`).
-/

namespace MediaRelay

namespace Text

variable {mark : Char} {text piece first second third : Text} {more : List Text}

/-- The first piece ends at the first mark or with the text. -/
theorem pieces_eq_cons_iff : pieces mark text = piece :: more ↔
    mark ∉ piece ∧ (text = piece ∧ more = [] ∨
      ∃ rest, text = piece ++ mark :: rest ∧ pieces mark rest = more) := by
  constructor
  · intro split
    by_cases marked : mark ∈ text
    · obtain ⟨before, rest, rfl, unmarked⟩ := List.eq_append_cons_of_mem marked
      rw [pieces_append unmarked, List.cons.injEq] at split
      obtain ⟨rfl, rfl⟩ := split
      exact ⟨unmarked, .inr ⟨rest, rfl, rfl⟩⟩
    · rw [pieces_of_not_mem marked, List.cons.injEq] at split
      obtain ⟨rfl, rfl⟩ := split
      exact ⟨marked, .inl ⟨rfl, rfl⟩⟩
  · rintro ⟨unmarked, ⟨rfl, rfl⟩ | ⟨rest, rfl, rfl⟩⟩
    · exact pieces_of_not_mem unmarked
    · exact pieces_append unmarked rest

theorem pieces_ne_nil (mark : Char) (text : Text) : pieces mark text ≠ [] := by
  by_cases marked : mark ∈ text
  · obtain ⟨before, rest, rfl, unmarked⟩ := List.eq_append_cons_of_mem marked
    simp [pieces_append unmarked]
  · simp [pieces_of_not_mem marked]

theorem pieces_eq_three_iff : pieces mark text = [first, second, third] ↔
    text = first ++ mark :: second ++ mark :: third ∧
      mark ∉ first ∧ mark ∉ second ∧ mark ∉ third := by
  simp only [pieces_eq_cons_iff, pieces_ne_nil, List.cons_ne_nil, and_false, false_or, or_false,
    and_true, exists_const]
  constructor
  · rintro ⟨one, _, rfl, two, _, rfl, three, rfl⟩
    exact ⟨by simp, one, two, three⟩
  · rintro ⟨rfl, one, two, three⟩
    exact ⟨one, _, by simp, two, _, rfl, three, rfl⟩

end Text

namespace Decimal

/-- How a number may be spelled: an optional plus sign and at least one digit. -/
def Spells (text : Text) (number : Nat) : Prop :=
  ∃ spelled, (text = spelled ∨ text = '+' :: spelled) ∧ spelled ≠ [] ∧
    (∀ c ∈ spelled, c.isDigit = true) ∧ value spelled = number

variable {text : Text} {limit number : Nat}

theorem unsigned_eq_self (unsign : '+' ∉ text) : unsigned text = text := by
  unfold unsigned
  split
  · exact absurd List.mem_cons_self unsign
  · rfl

theorem unsigned_cases (text : Text) : text = unsigned text ∨ text = '+' :: unsigned text := by
  unfold unsigned
  split
  · exact .inr rfl
  · exact .inl rfl

theorem read?_eq_some_iff : read? limit text = some number ↔
    Spells text number ∧ number ≤ limit := by
  simp only [read?, Option.ite_none_right_eq_some, Option.some.injEq, List.all_eq_true]
  constructor
  · rintro ⟨⟨filled, digits, within⟩, rfl⟩
    exact ⟨⟨unsigned text, unsigned_cases text, filled, digits, rfl⟩, within⟩
  · rintro ⟨⟨spelled, worded, filled, digits, rfl⟩, within⟩
    have unsign : '+' ∉ spelled := fun member => absurd (digits _ member) (by decide)
    have bare : unsigned text = spelled := by
      rcases worded with rfl | rfl
      · exact unsigned_eq_self unsign
      · rfl
    rw [bare]
    exact ⟨⟨filled, digits, within⟩, rfl⟩

theorem read?_eq_none_iff : read? limit text = none ↔ ∀ number ≤ limit, ¬ Spells text number := by
  rw [Option.eq_none_iff_forall_ne_some]
  simp only [ne_eq, read?_eq_some_iff]
  exact forall_congr' fun _ => ⟨fun none within spells => none ⟨spells, within⟩,
    fun none ⟨spells, within⟩ => none within spells⟩

end Decimal

namespace Headers

variable {headers : Headers} {name value : Text}

/-- A value is that of the first field with a name, in whatever case the name is written. -/
def First (headers : Headers) (name value : Text) : Prop :=
  ∃ before spelling behind, headers = before ++ (spelling, value) :: behind ∧
    Text.sameFolded spelling name = true ∧ ∀ field ∈ before, Text.sameFolded field.1 name = false

theorem get?_eq_some_iff : headers.get? name = some value ↔ headers.First name value := by
  simp only [get?, Option.map_eq_some_iff, List.find?_eq_some_iff_append, First]
  constructor
  · rintro ⟨⟨spelling, _⟩, ⟨same, before, behind, rfl, others⟩, rfl⟩
    exact ⟨before, spelling, behind, rfl, same, fun field member => by
      simpa using others field member⟩
  · rintro ⟨before, spelling, behind, rfl, same, others⟩
    exact ⟨(spelling, value), ⟨same, before, behind, rfl, fun field member => by
      simpa using others field member⟩, rfl⟩

theorem get?_eq_none_iff : headers.get? name = none ↔
    ∀ field ∈ headers, Text.sameFolded field.1 name = false := by
  simp only [get?, Option.map_eq_none_iff, List.find?_eq_none, Bool.not_eq_true]

/-- The fields with a name, the case of its letters aside. -/
def called (headers : Headers) (name : Text) : Headers :=
  headers.filter fun field => Text.sameFolded field.1 name

theorem without_eq_self (absent : headers.called name = []) : headers.without name = headers := by
  refine List.filter_eq_self.mpr fun field member => ?_
  have other := List.filter_eq_nil_iff.mp absent field member
  simpa using other

theorem called_append (first second : Headers) (name : Text) :
    called (first ++ second) name = first.called name ++ second.called name :=
  List.filter_append ..

theorem called_without (headers : Headers) (name : Text) :
    (headers.without name).called name = [] := by
  refine List.filter_eq_nil_iff.mpr fun field member => ?_
  have other := (List.mem_filter.mp member).2
  simpa using other

theorem without_append (first second : Headers) (name : Text) :
    without (first ++ second) name = first.without name ++ second.without name :=
  List.filter_append ..

theorem without_without (headers : Headers) (name : Text) :
    (headers.without name).without name = headers.without name :=
  without_eq_self (called_without headers name)

/-- A field that is set stands once, whatever stood there before. -/
theorem called_set (headers : Headers) (name value : Text) :
    (headers.set name value).called name = [(name, value)] := by
  have same : Text.sameFolded name name = true := by simp [Text.sameFolded]
  rw [set, add, called_append, called_without, List.nil_append]
  exact List.filter_cons_of_pos same

theorem without_set (headers : Headers) (name value : Text) :
    (headers.set name value).without name = headers.without name := by
  have same : Text.sameFolded name name = true := by simp [Text.sameFolded]
  rw [set, add, without_append, without_without]
  simp [without, same]

/-- A header line: a name before the first colon, and a value behind it, both without the blanks
around them. The name is not empty. -/
def Names (line : Text) (field : Text × Text) : Prop :=
  ∃ name value, line = name ++ ':' :: value ∧ ':' ∉ name ∧ Text.trimmed name ≠ [] ∧
    field = (Text.trimmed name, Text.trimmed value)

theorem field?_eq_some_iff {line : Text} {field : Text × Text} :
    Request.field? line = some field ↔ Names line field := by
  unfold Request.field?
  constructor
  · intro found
    split at found
    · rename_i name value cut
      obtain ⟨whole, uncut⟩ := Text.cut?_eq_some_iff.mp cut
      split at found
      · cases found
      · rename_i filled
        exact ⟨name, value, whole, uncut, by simpa using filled, (Option.some.inj found).symm⟩
    · cases found
  · rintro ⟨name, value, whole, uncut, filled, rfl⟩
    rw [Text.cut?_eq_some_iff.mpr ⟨whole, uncut⟩]
    simp only [List.isEmpty_iff, filled, ↓reduceIte]

theorem Names.filled {line : Text} {field : Text × Text} (names : Names line field) :
    line ≠ [] := by
  obtain ⟨name, value, rfl, -⟩ := names
  simp

end Headers

namespace Request

/-- A request line: three words that are not empty, one blank apart. -/
structure Parts (line method uri version : Text) : Prop where
  whole : line = method ++ ' ' :: uri ++ ' ' :: version
  method : method ≠ [] ∧ ' ' ∉ method
  uri : uri ≠ [] ∧ ' ' ∉ uri
  version : version ≠ [] ∧ ' ' ∉ version

variable {line method uri version : Text}

theorem Parts.filled (parts : Parts line method uri version) : line ≠ [] := by
  rw [parts.whole]
  simp

theorem parts?_eq_some_iff : parts? line = some (method, uri, version) ↔
    Parts line method uri version := by
  constructor
  · intro parted
    have split := pieces_of_parts? parted
    obtain ⟨whole, one, two, three⟩ := Text.pieces_eq_three_iff.mp split
    have filled : method ≠ [] ∧ uri ≠ [] ∧ version ≠ [] := by
      simpa [parts?, split, and_assoc] using parted
    exact ⟨whole, ⟨filled.1, one⟩, ⟨filled.2.1, two⟩, ⟨filled.2.2, three⟩⟩
  · intro parts
    have split := Text.pieces_eq_three_iff.mpr
      ⟨parts.whole, parts.method.2, parts.uri.2, parts.version.2⟩
    unfold parts?
    rw [split]
    simp [parts.method.1, parts.uri.1, parts.version.1]

end Request

namespace Line

variable {input rest line content : Bytes} {text : Text} {error : RelayError}

/-- How a line of text may stand in the input: as UTF-8 with a line feed behind it that comes in
time, and perhaps one carriage return before the line feed. -/
def Writes (line : Bytes) (text : Text) : Prop :=
  ∃ content, line = content ++ [lineFeed] ∧ lineFeed ∉ content ∧ line.length ≤ maxLine ∧
    withoutReturn content = Utf8.encode text

theorem read_eq_some_iff_writes : read input = .ok (some (text, rest)) ↔
    ∃ line, Writes line text ∧ input = line ++ rest := by
  rw [read_eq_some_iff]
  constructor
  · rintro ⟨content, rfl, unbroken, short, decoded⟩
    refine ⟨content ++ [lineFeed], ⟨content, rfl, unbroken, ?_, ?_⟩, by simp⟩
    · simpa [Nat.succ_le_iff] using short
    · exact Utf8.decode?_eq_some_iff.mp decoded
  · rintro ⟨_, ⟨content, rfl, unbroken, short, spelled⟩, rfl⟩
    refine ⟨content, by simp, unbroken, ?_, Utf8.decode?_eq_some_iff.mpr spelled⟩
    simpa [Nat.succ_le_iff] using short

theorem Writes.read (written : Writes line text) (rest : Bytes) :
    read (line ++ rest) = .ok (some (text, rest)) :=
  read_eq_some_iff_writes.mpr ⟨line, written, rfl⟩

/-- What is wrong where a line should stand, with the error that it is reported as. -/
inductive Fault : Bytes → RelayError → Prop
  /-- The input ends before the line does. -/
  | cut {input : Bytes} (unended : lineFeed ∉ input) (short : input.length < maxLine) :
      Fault input .truncated
  /-- The line feed does not come in time, if at all. -/
  | long {input : Bytes} (unended : lineFeed ∉ input.take maxLine)
      (full : maxLine ≤ input.length) : Fault input (.malformed .lineTooLong)
  /-- The line is not UTF-8. -/
  | misspelled {content rest : Bytes} (unbroken : lineFeed ∉ content)
      (short : content.length < maxLine)
      (illegible : ∀ text, withoutReturn content ≠ Utf8.encode text) :
      Fault (content ++ lineFeed :: rest) (.malformed .notUtf8)

/-- At the front of the input stands a line, or something is wrong there. -/
theorem line_or_fault (input : Bytes) :
    (∃ line text rest, Writes line text ∧ input = line ++ rest) ∨ ∃ error, Fault input error := by
  by_cases ended : lineFeed ∈ input
  · obtain ⟨content, rest, rfl, unbroken⟩ := List.eq_append_cons_of_mem ended
    by_cases short : content.length < maxLine
    · by_cases legible : ∃ text, withoutReturn content = Utf8.encode text
      · obtain ⟨text, spelled⟩ := legible
        refine .inl ⟨content ++ [lineFeed], text, rest, ?_, by simp⟩
        exact ⟨content, rfl, unbroken, by simpa [Nat.succ_le_iff] using short, spelled⟩
      · exact .inr ⟨_, .misspelled unbroken short (not_exists.mp legible)⟩
    · refine .inr ⟨_, .long ?_ ?_⟩
      · rw [List.take_append_of_le_length (Nat.not_lt.mp short)]
        exact fun member => unbroken (List.mem_of_mem_take member)
      · simp only [List.length_append]
        omega
  · rcases Nat.lt_or_ge input.length maxLine with short | full
    · exact .inr ⟨_, .cut ended short⟩
    · exact .inr ⟨_, .long (fun member => ended (List.mem_of_mem_take member)) full⟩

theorem Fault.read (faulty : Fault input error) (filled : input ≠ []) :
    read input = .error error := by
  cases faulty with
  | cut unended short => rw [read_unended unended filled, if_neg (Nat.not_le.mpr short)]
  | long unended full =>
      by_cases ended : lineFeed ∈ input
      · obtain ⟨content, rest, rfl, unbroken⟩ := List.eq_append_cons_of_mem ended
        have late : maxLine ≤ content.length := by
          by_contra short
          obtain ⟨spare, room⟩ : ∃ spare, maxLine - content.length = spare + 1 :=
            Nat.exists_eq_add_one.mpr (Nat.sub_pos_of_lt (Nat.not_le.mp short))
          rw [List.take_append, room, List.take_succ_cons] at unended
          simp at unended
        rw [read_line unbroken, if_pos late]
      · rw [read_unended ended filled, if_pos full]
  | misspelled unbroken short illegible =>
      have refused : Utf8.decode? (withoutReturn _) = none :=
        Option.eq_none_iff_forall_ne_some.mpr fun text decoded =>
          illegible text (Utf8.decode?_eq_some_iff.mp decoded)
      rw [read_line unbroken, if_neg (Nat.not_le.mpr short), refused]

/-- Where nothing is left, the input is cut off. -/
theorem Fault.eq_truncated (faulty : Fault input error) (nothing : input = []) :
    error = .truncated := by
  cases faulty with
  | cut => rfl
  | long _ full =>
      rw [nothing] at full
      exact absurd full (by decide)
  | misspelled => exact absurd nothing (by simp)

/-! ## Empty lines -/

theorem withoutReturn_eq_nil_iff : withoutReturn content = [] ↔
    content = [] ∨ content = [carriageReturn] := by
  unfold withoutReturn
  split
  · rename_i returned
    obtain ⟨front, rfl⟩ := List.getLast?_eq_some_iff.mp returned
    simp
  · rename_i bare
    constructor
    · exact .inl
    · rintro (rfl | rfl)
      · rfl
      · exact absurd rfl bare

theorem writes_nil_iff : Writes line [] ↔ ∃ returned, line = emptyLine returned := by
  constructor
  · rintro ⟨content, rfl, -, -, empty⟩
    rcases withoutReturn_eq_nil_iff.mp empty with rfl | rfl
    · exact ⟨false, rfl⟩
    · exact ⟨true, rfl⟩
  · rintro ⟨returned, rfl⟩
    cases returned with
    | false => exact ⟨[], rfl, by decide, by decide, rfl⟩
    | true => exact ⟨[carriageReturn], rfl, by decide, by decide, rfl⟩

theorem read_emptyLine (returned : Bool) (rest : Bytes) :
    read (emptyLine returned ++ rest) = .ok (some ([], rest)) :=
  (writes_nil_iff.mpr ⟨returned, rfl⟩).read rest

/-- Nothing is skipped where no empty line stands. -/
theorem skipEmpty_eq_self (opened : ∀ rest, read input ≠ .ok (some ([], rest))) :
    skipEmpty input = input := by
  obtain ⟨returns, same⟩ := exists_emptyLines input
  cases returns with
  | nil => exact same.symm
  | cons returned returns =>
      rw [List.flatMap_cons, List.append_assoc] at same
      have empty := read_emptyLine returned (returns.flatMap emptyLine ++ skipEmpty input)
      rw [← same] at empty
      exact absurd empty (opened _)

theorem Writes.skipEmpty (written : Writes line text) (filled : text ≠ []) (rest : Bytes) :
    skipEmpty (line ++ rest) = line ++ rest := by
  apply skipEmpty_eq_self
  intro others empty
  rw [written.read] at empty
  cases empty
  exact filled rfl

theorem Fault.skipEmpty (faulty : Fault input error) (filled : input ≠ []) :
    skipEmpty input = input := by
  apply skipEmpty_eq_self
  intro others empty
  rw [faulty.read filled] at empty
  cases empty

/-- Skipping leaves no empty line at the front. -/
theorem filled_of_skipEmpty (opened : skipEmpty input = line ++ rest) (written : Writes line text) :
    text ≠ [] := by
  rintro rfl
  obtain ⟨returned, rfl⟩ := writes_nil_iff.mp written
  have once : skipEmpty input = skipEmpty (skipEmpty input) := by
    obtain ⟨returns, same⟩ := exists_emptyLines input
    exact (congrArg skipEmpty same).trans (skipEmpty_emptyLines returns _)
  have further := skipEmpty_emptyLines [returned] rest
  rw [List.flatMap_singleton, ← opened, ← once] at further
  have shorter := length_skipEmpty_le rest
  have longer := congrArg List.length opened
  rw [further, List.length_append] at longer
  cases returned <;> simp [emptyLine] at longer <;> omega

end Line

end MediaRelay
