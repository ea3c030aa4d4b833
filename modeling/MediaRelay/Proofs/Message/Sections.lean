import MediaRelay.Description
import MediaRelay.Message.Line
import MediaRelay.Proofs.Message.Wording
import Mathlib.Logic.Relation

/-! # The media of a description

Which bodies describe a channel, and what media they describe. Behind the version line a description
is cut at its `m=` lines (`Description.Cut`), and every passage tells of one medium: its first line
of the kind, and the last `a=control:` line in it of the control (`Description.Tells`). What is no
description breaks one of three rules, and the first broken one is reported (`Description.Fault`).
No other lines matter, nor does how lines end (`Description.Edit`).
-/

namespace MediaRelay

namespace Text

variable {mark : Char} {lead text word : Text}

theorem after?_eq_none_iff : after? lead text = none ↔ ¬ lead <+: text := by
  constructor
  · rintro none ⟨rest, rfl⟩
    rw [after?_append] at none
    cases none
  · intro other
    refine Option.eq_none_iff_forall_ne_some.mpr fun rest found => other ⟨rest, ?_⟩
    exact (eq_append_of_after? found).symm

/-- The pieces on both sides of a mark do not depend on each other. -/
theorem pieces_append_cons (mark : Char) (front behind : Text) :
    pieces mark (front ++ mark :: behind) = pieces mark front ++ pieces mark behind := by
  induction front with
  | nil => simp [pieces]
  | cons first front ih =>
      by_cases same : first = mark
      · rw [List.cons_append, pieces, if_pos same, ih, pieces, if_pos same, List.cons_append]
      · rw [List.cons_append, pieces, if_neg same, ih, pieces, if_neg same]
        obtain ⟨piece, more, split⟩ := List.exists_cons_of_ne_nil (pieces_ne_nil mark front)
        rw [split]
        rfl

/-- A character that is no mark goes to the end of the last piece. -/
theorem pieces_concat {c : Char} (other : c ≠ mark) (text : Text) :
    ∃ earlier last, pieces mark text = earlier ++ [last] ∧
      pieces mark (text ++ [c]) = earlier ++ [last ++ [c]] := by
  induction text with
  | nil => exact ⟨[], [], rfl, by simp [pieces, other]⟩
  | cons first text ih =>
      obtain ⟨earlier, last, split, extended⟩ := ih
      by_cases same : first = mark
      · refine ⟨[] :: earlier, last, ?_, ?_⟩
        · rw [pieces, if_pos same, split, List.cons_append]
        · rw [List.cons_append, pieces, if_pos same, extended, List.cons_append]
      · cases earlier with
        | nil =>
            refine ⟨[], first :: last, ?_, ?_⟩
            · rw [pieces, if_neg same, split]
              rfl
            · rw [List.cons_append, pieces, if_neg same, extended]
              rfl
        | cons piece earlier =>
            refine ⟨(first :: piece) :: earlier, last, ?_, ?_⟩
            · rw [pieces, if_neg same, split]
              rfl
            · rw [List.cons_append, pieces, if_neg same, extended]
              rfl

/-- A blank at the end is trimmed off. -/
theorem trimmed_concat {c : Char} (blank : isBlank c = true) (text : Text) :
    trimmed (text ++ [c]) = trimmed text := by
  by_cases blanks : ∀ other ∈ text, isBlank other = true
  · have nothing : text.dropWhile isBlank = [] := List.dropWhile_eq_nil_iff.mpr blanks
    rw [trimmed, trimmed, trimmedOf, trimmedOf, List.dropWhile_append, nothing]
    simp [blank]
  · have filled : text.dropWhile isBlank ≠ [] := fun nothing =>
      blanks (List.dropWhile_eq_nil_iff.mp nothing)
    rw [trimmed, trimmed, trimmedOf, trimmedOf, List.dropWhile_append]
    simp [filled, blank]

/-- The first word of a text stands behind blanks only and ends at a blank or with the text. A text
of blanks has an empty one. -/
inductive FirstWord : Text → Text → Prop
  | word {blanks word behind : Text} (blank : ∀ c ∈ blanks, isBlank c = true) (filled : word ≠ [])
      (solid : ∀ c ∈ word, isBlank c = false) (ended : ∀ c ∈ behind.head?, isBlank c = true) :
      FirstWord (blanks ++ (word ++ behind)) word
  | none {blanks : Text} (blank : ∀ c ∈ blanks, isBlank c = true) : FirstWord blanks []

theorem firstWord_spec (text : Text) : FirstWord text (firstWord text) := by
  cases left : text.dropWhile isBlank with
  | nil =>
      rw [firstWord, left]
      exact .none (List.dropWhile_eq_nil_iff.mp left)
  | cons first rest =>
      have opened : isBlank first = false := by
        have stopped := List.head?_dropWhile_not isBlank text
        rwa [left] at stopped
      have spelled : firstWord text = first :: rest.takeWhile fun c => !isBlank c := by
        rw [firstWord, left, List.takeWhile_cons_of_pos (by simp [opened])]
      have whole : text.takeWhile isBlank ++ (firstWord text ++
          (text.dropWhile isBlank).dropWhile fun c => !isBlank c) = text := by
        rw [firstWord, List.takeWhile_append_dropWhile, List.takeWhile_append_dropWhile]
      have found : FirstWord (text.takeWhile isBlank ++ (firstWord text ++
          (text.dropWhile isBlank).dropWhile fun c => !isBlank c)) (firstWord text) := by
        refine .word (fun c member => List.mem_takeWhile_imp member) ?_ ?_ ?_
        · exact spelled ▸ List.cons_ne_nil _ _
        · exact fun c member => by simpa using List.mem_takeWhile_imp member
        · intro c ended
          have stopped := List.head?_dropWhile_not (fun c => !isBlank c) (text.dropWhile isBlank)
          rw [Option.mem_def.mp ended] at stopped
          simpa using stopped
      rwa [whole] at found

theorem firstWord_eq_iff : firstWord text = word ↔ FirstWord text word := by
  refine ⟨fun same => same ▸ firstWord_spec text, fun first => ?_⟩
  cases first with
  | word blank filled solid ended =>
      rename_i blanks behind
      obtain ⟨c, rest, rfl⟩ := List.exists_cons_of_ne_nil filled
      have opened := solid c List.mem_cons_self
      have closed : behind.takeWhile (fun c => !isBlank c) = [] := by
        cases behind with
        | nil => rfl
        | cons c behind => simp [ended c rfl]
      rw [firstWord, List.dropWhile_append_of_pos blank, List.cons_append,
        List.dropWhile_cons_of_neg (by simp [opened]), ← List.cons_append,
        List.takeWhile_append_of_pos (by simpa using solid), closed, List.append_nil]
  | none blank => rw [firstWord, List.dropWhile_eq_nil_iff.mpr blank, List.takeWhile_nil]

end Text

namespace Utf8

variable {c : Char} {text : Text} {front behind : Bytes}

/-- The byte of an ASCII character stands between characters. By induction on the text: the byte
comes after the first character, or is all of it. -/
theorem exists_split_of_encode (ascii : c.toNat < 0x80)
    (spelled : encode text = front ++ .ofNat c.toNat :: behind) :
    ∃ before after, text = before ++ c :: after ∧ front = encode before ∧
      behind = encode after := by
  induction text generalizing front with
  | nil => simp [encode] at spelled
  | cons first text ih =>
      rw [encode_cons] at spelled
      rcases List.append_eq_append_iff.mp spelled with
        ⟨rest, rfl, later⟩ | ⟨rest, within, later⟩
      · obtain ⟨before, after, rfl, rfl, rfl⟩ := ih later
        exact ⟨first :: before, after, rfl, (encode_cons first before).symm, rfl⟩
      · cases rest with
        | nil =>
            obtain ⟨before, after, rfl, nothing, rfl⟩ :=
              ih (show encode text = [] ++ .ofNat c.toNat :: behind from later.symm)
            refine ⟨first :: before, after, rfl, ?_, rfl⟩
            rw [encode_cons, within, ← nothing, List.append_nil, List.append_nil]
        | cons b rest =>
            obtain ⟨rfl, rfl⟩ := List.cons.inj later
            have value : (UInt8.ofNat c.toNat).toNat = c.toNat := toNat_ofNat_of_lt (by omega)
            have short : first.toNat < 0x80 := by
              by_contra long
              have high := le_of_mem_charBytes (Nat.not_lt.mp long)
                (within ▸ List.mem_append_right front List.mem_cons_self)
              omega
            rw [charBytes, if_pos short, List.singleton_eq_append_iff] at within
            rcases within with ⟨rfl, single⟩ | ⟨_, none⟩
            · obtain ⟨same, rfl⟩ := List.cons.inj single
              have equal := congrArg UInt8.toNat same
              rw [value, toNat_ofNat_of_lt (by omega)] at equal
              exact ⟨[], text, by rw [Char.toNat_inj.mp equal]; rfl, rfl, rfl⟩
            · exact absurd none (List.cons_ne_nil _ _)

theorem decode?_append_ascii (ascii : c.toNat < 0x80) (front behind : Bytes) :
    decode? (front ++ .ofNat c.toNat :: behind) = (decode? front).bind fun before =>
      (decode? behind).map fun after => before ++ c :: after := by
  refine Option.ext fun text => ?_
  simp only [decode?_eq_some_iff, Option.bind_eq_some_iff, Option.map_eq_some_iff]
  have single : charBytes c = [.ofNat c.toNat] := if_pos ascii
  constructor
  · intro spelled
    obtain ⟨before, after, rfl, rfl, rfl⟩ := exists_split_of_encode ascii spelled.symm
    exact ⟨before, rfl, after, rfl, rfl⟩
  · rintro ⟨before, rfl, after, rfl, rfl⟩
    rw [encode_append, encode_cons, single]
    rfl

end Utf8

/-! ## What a description says -/

/-- A section as it stands in a description: what follows `m=` in its first line, and the lines up
to the next such line. -/
structure Passage where
  title : Text
  body : List Text

namespace Passage

def lines (passage : Passage) : List Text := ("m=".toList ++ passage.title) :: passage.body

end Passage

namespace Description

/-- The lines of a text, without the blanks around them. -/
def lines (text : Text) : List Text := (Text.pieces '\n' text).map Text.trimmed

/-- The first line that is not blank is the version line; `rest` are the lines behind it. -/
def Opens (text : Text) (rest : List Text) : Prop :=
  ∃ blanks, lines text = blanks ++ "v=0".toList :: rest ∧ ∀ line ∈ blanks, line = []

/-- Lines are cut at those that begin with `m=`. -/
structure Cut (lines preamble : List Text) (passages : List Passage) : Prop where
  whole : lines = preamble ++ passages.flatMap Passage.lines
  before : ∀ line ∈ preamble, ¬ "m=".toList <+: line
  within : ∀ passage ∈ passages, ∀ line ∈ passage.body, ¬ "m=".toList <+: line

/-- The control that the lines of a section name: the one in the last `a=control:` line, or an empty
one if there is no such line. -/
inductive Names : List Text → Text → Prop
  | last {before behind : List Text} {value : Text}
      (last : ∀ line ∈ behind, ¬ "a=control:".toList <+: line) :
      Names (before ++ ("a=control:".toList ++ value) :: behind) (controlOf (Text.trimmed value))
  | none {body : List Text} (none : ∀ line ∈ body, ¬ "a=control:".toList <+: line) : Names body []

/-- What a section tells of its medium. -/
structure Tells (passage : Passage) (medium : MediaSection) : Prop where
  kind : Text.FirstWord passage.title medium.kind
  control : Names passage.body medium.control

/-- A body that describes media, one for each section. -/
inductive Written : Bytes → Description → Prop
  | intro {text : Text} {rest preamble : List Text} {passages : List Passage}
      {sections : List MediaSection} (opens : Opens text rest) (cut : Cut rest preamble passages)
      (filled : passages ≠ []) (told : List.Forall₂ Tells passages sections) :
      Written (Utf8.encode text) ⟨sections⟩

/-- What is wrong with a body, with the error that it is reported as. -/
inductive Fault : Bytes → DescriptionError → Prop
  | illegible {raw : Bytes} (illegible : ∀ text, raw ≠ Utf8.encode text) : Fault raw .notUtf8
  | unversioned {text : Text} (unversioned : ∀ rest, ¬ Opens text rest) :
      Fault (Utf8.encode text) .missingVersion
  | bare {text : Text} {rest : List Text} (opens : Opens text rest)
      (bare : ∀ line ∈ rest, ¬ "m=".toList <+: line) : Fault (Utf8.encode text) .noMedia

variable {text line control : Text} {rest before behind body preamble : List Text}
  {passages : List Passage} {passage : Passage} {sections earlier : List MediaSection}
  {raw : Bytes} {description : Description} {error : DescriptionError}

/-! ## Lines -/

theorem lines_append (front behind : Text) :
    lines (front ++ '\n' :: behind) = lines front ++ lines behind := by
  rw [lines, Text.pieces_append_cons, List.map_append]
  rfl

theorem lines_of_unbroken (unbroken : '\n' ∉ line) : lines line = [Text.trimmed line] := by
  rw [lines, Text.pieces_of_not_mem unbroken]
  rfl

/-- A carriage return at the end of a line is trimmed off. -/
theorem lines_concat_return (text : Text) : lines (text ++ ['\r']) = lines text := by
  obtain ⟨earlier, last, split, extended⟩ :=
    Text.pieces_concat (by decide : '\r' ≠ '\n') text
  rw [lines, lines, split, extended, List.map_append, List.map_append, List.map_singleton,
    List.map_singleton, Text.trimmed_concat (by decide)]

theorem takeLine_title (sections : List MediaSection) (title : Text) :
    takeLine sections ("m=".toList ++ title) = ⟨Text.firstWord title, []⟩ :: sections := by
  unfold takeLine
  rw [Text.after?_append]

theorem takeLine_control (medium : MediaSection) (value : Text) :
    takeLine (medium :: earlier) ("a=control:".toList ++ value) =
      { medium with control := controlOf (Text.trimmed value) } :: earlier := by
  have other : Text.after? "m=".toList ("a=control:".toList ++ value) = none := rfl
  unfold takeLine
  rw [other, Text.after?_append]

/-- Only lines of two kinds are taken in. -/
theorem takeLine_of_other (sections : List MediaSection) (untitled : ¬ "m=".toList <+: line)
    (uncontrolled : ¬ "a=control:".toList <+: line) : takeLine sections line = sections := by
  unfold takeLine
  rw [Text.after?_eq_none_iff.mpr untitled, Text.after?_eq_none_iff.mpr uncontrolled]

theorem takeLine_nil (untitled : ¬ "m=".toList <+: line) : takeLine [] line = [] := by
  unfold takeLine
  rw [Text.after?_eq_none_iff.mpr untitled]
  cases Text.after? "a=control:".toList line <;> rfl

/-- A line that opens no section changes at most the control of the current one. -/
theorem takeLine_cons (medium : MediaSection) (untitled : ¬ "m=".toList <+: line) :
    ∃ control,
      takeLine (medium :: earlier) line = { medium with control := control } :: earlier := by
  by_cases controlled : "a=control:".toList <+: line
  · obtain ⟨value, rfl⟩ := controlled
    exact ⟨_, takeLine_control medium value⟩
  · exact ⟨medium.control, takeLine_of_other _ untitled controlled⟩

/-! ## Sections -/

theorem exists_cut (lines : List Text) : ∃ preamble passages, Cut lines preamble passages := by
  induction lines with
  | nil => exact ⟨[], [], rfl, by simp, by simp⟩
  | cons line lines ih =>
      obtain ⟨preamble, passages, rfl, before, within⟩ := ih
      by_cases titled : "m=".toList <+: line
      · obtain ⟨title, rfl⟩ := titled
        refine ⟨[], ⟨title, preamble⟩ :: passages, rfl, by simp, ?_⟩
        exact List.forall_mem_cons.mpr ⟨before, within⟩
      · exact ⟨line :: preamble, passages, rfl, List.forall_mem_cons.mpr ⟨titled, before⟩, within⟩

theorem exists_names (body : List Text) : ∃ control, Names body control := by
  induction body with
  | nil => exact ⟨[], .none (by simp)⟩
  | cons line body ih =>
      obtain ⟨control, names⟩ := ih
      cases names with
      | @last before behind value last => exact ⟨_, @Names.last (line :: before) behind value last⟩
      | none none =>
          by_cases controlled : "a=control:".toList <+: line
          · obtain ⟨value, rfl⟩ := controlled
            exact ⟨_, @Names.last [] body value none⟩
          · exact ⟨[], .none (List.forall_mem_cons.mpr ⟨controlled, none⟩)⟩

theorem exists_tells (passages : List Passage) :
    ∃ sections, List.Forall₂ Tells passages sections := by
  induction passages with
  | nil => exact ⟨[], .nil⟩
  | cons passage passages ih =>
      obtain ⟨sections, told⟩ := ih
      obtain ⟨control, names⟩ := exists_names passage.body
      exact ⟨⟨Text.firstWord passage.title, control⟩ :: sections,
        .cons ⟨Text.firstWord_spec _, names⟩ told⟩

theorem foldl_eq_self (fixed : ∀ line ∈ body, takeLine sections line = sections) :
    body.foldl takeLine sections = sections := by
  induction body with
  | nil => rfl
  | cons line body ih =>
      obtain ⟨here, later⟩ := List.forall_mem_cons.mp fixed
      rw [List.foldl_cons, here, ih later]

/-- Before the first section nothing is taken in. -/
theorem foldl_preamble (untitled : ∀ line ∈ preamble, ¬ "m=".toList <+: line) :
    preamble.foldl takeLine [] = [] :=
  foldl_eq_self fun line member => takeLine_nil (untitled line member)

theorem foldl_others (sections : List MediaSection)
    (untitled : ∀ line ∈ body, ¬ "m=".toList <+: line)
    (uncontrolled : ∀ line ∈ body, ¬ "a=control:".toList <+: line) :
    body.foldl takeLine sections = sections :=
  foldl_eq_self fun line member =>
    takeLine_of_other sections (untitled line member) (uncontrolled line member)

theorem exists_foldl_body (medium : MediaSection)
    (untitled : ∀ line ∈ body, ¬ "m=".toList <+: line) :
    ∃ control, body.foldl takeLine (medium :: earlier) =
      { medium with control := control } :: earlier := by
  induction body generalizing medium with
  | nil => exact ⟨medium.control, rfl⟩
  | cons line body ih =>
      obtain ⟨here, later⟩ := List.forall_mem_cons.mp untitled
      obtain ⟨control, taken⟩ := takeLine_cons medium here
      rw [List.foldl_cons, taken]
      exact ih { medium with control := control } later

/-- Of the lines that name a control only the last shows. -/
theorem foldl_body (names : Names body control) (kind : Text)
    (untitled : ∀ line ∈ body, ¬ "m=".toList <+: line) :
    body.foldl takeLine (⟨kind, []⟩ :: earlier) = ⟨kind, control⟩ :: earlier := by
  cases names with
  | @last before behind value last =>
      obtain ⟨first, rest⟩ := List.forall_mem_append.mp untitled
      obtain ⟨held, taken⟩ := exists_foldl_body ⟨kind, []⟩ first
      rw [List.foldl_append, taken, List.foldl_cons, takeLine_control]
      exact foldl_others _ (List.forall_mem_cons.mp rest).2 last
  | none none => exact foldl_others _ untitled none

/-- By induction on the sections, each of which is put before the earlier ones. -/
theorem foldl_passages (told : List.Forall₂ Tells passages sections)
    (within : ∀ passage ∈ passages, ∀ line ∈ passage.body, ¬ "m=".toList <+: line)
    (earlier : List MediaSection) :
    (passages.flatMap Passage.lines).foldl takeLine earlier = sections.reverse ++ earlier := by
  induction told generalizing earlier with
  | nil => rfl
  | @cons passage medium passages sections tells _ ih =>
      obtain ⟨here, later⟩ := List.forall_mem_cons.mp within
      have kind := Text.firstWord_eq_iff.mpr tells.kind
      rw [List.flatMap_cons, List.foldl_append, Passage.lines, List.foldl_cons, takeLine_title,
        foldl_body tells.control _ here, kind, ih later, List.reverse_cons, List.append_assoc]
      rfl

/-! ## The reading -/

/-- The description of the sections that were taken in, which are listed last first. -/
def conclude (sections : List MediaSection) : Except DescriptionError Description :=
  match sections.reverse with
  | [] => .error .noMedia
  | sections => .ok ⟨sections⟩

/-- Reads lines of which some may be blank. -/
def readLines (lines : List Text) : Except DescriptionError Description :=
  match lines.dropWhile List.isEmpty with
  | [] => .error .missingVersion
  | first :: rest =>
    if first = "v=0".toList then
      conclude (rest.foldl takeLine [])
    else
      .error .missingVersion

/-- Blank lines need not be left out. -/
theorem foldl_filled (lines : List Text) (sections : List MediaSection) :
    (lines.filter fun line => !line.isEmpty).foldl takeLine sections =
      lines.foldl takeLine sections := by
  rw [List.foldl_filter]
  refine congrArg (fun step => lines.foldl step sections) (funext₂ fun sections line => ?_)
  cases line with
  | nil => exact (takeLine_of_other sections (by simp) (by simp)).symm
  | cons first line => rfl

theorem filter_dropWhile_isEmpty (lines : List Text) :
    (lines.dropWhile List.isEmpty).filter (fun line => !line.isEmpty) =
      lines.filter fun line => !line.isEmpty := by
  induction lines with
  | nil => rfl
  | cons line lines ih =>
      cases line with
      | nil => exact ih
      | cons first line => rfl

/-- A body is read line by line once it is decoded. -/
theorem parse_eq (raw : Bytes) : parse raw =
    (Utf8.decode? raw).elim (.error .notUtf8) fun text => readLines (lines text) := by
  unfold parse
  cases Utf8.decode? raw with
  | none => rfl
  | some text =>
      dsimp only [Option.elim]
      rw [contentLines, ← lines, ← filter_dropWhile_isEmpty, readLines]
      cases left : (lines text).dropWhile List.isEmpty with
      | nil => rfl
      | cons first rest =>
          have filled : first.isEmpty = false := by
            have stopped := List.head?_dropWhile_not List.isEmpty (lines text)
            rwa [left] at stopped
          rw [List.filter_cons_of_pos (by simp [filled])]
          dsimp only
          by_cases versioned : first = "v=0".toList
          · rw [if_neg (not_not.mpr versioned), if_pos versioned, foldl_filled]
            rfl
          · rw [if_pos versioned, if_neg versioned]

theorem parse_encode (text : Text) : parse (Utf8.encode text) = readLines (lines text) := by
  rw [parse_eq, Utf8.decode?_encode]
  rfl

theorem opens_iff : Opens text rest ↔
    (lines text).dropWhile List.isEmpty = "v=0".toList :: rest := by
  constructor
  · rintro ⟨blanks, whole, blank⟩
    have empty : ∀ line ∈ blanks, line.isEmpty = true := fun line member =>
      List.isEmpty_iff.mpr (blank line member)
    rw [whole, List.dropWhile_append_of_pos empty]
    rfl
  · intro left
    refine ⟨(lines text).takeWhile List.isEmpty, ?_, fun line member => ?_⟩
    · rw [← left, List.takeWhile_append_dropWhile]
    · exact List.isEmpty_iff.mp (List.mem_takeWhile_imp member)

theorem parse_of_opens (opens : Opens text rest) :
    parse (Utf8.encode text) = conclude (rest.foldl takeLine []) := by
  rw [parse_encode, readLines, opens_iff.mp opens]
  exact if_pos rfl

theorem foldl_cut (cut : Cut rest preamble passages)
    (told : List.Forall₂ Tells passages sections) :
    rest.foldl takeLine [] = sections.reverse := by
  rw [cut.whole, List.foldl_append, foldl_preamble cut.before,
    foldl_passages told cut.within, List.append_nil]

theorem Written.parse (written : Written raw description) :
    Description.parse raw = .ok description := by
  obtain ⟨opens, cut, filled, told⟩ := written
  rw [parse_of_opens opens, foldl_cut cut told, conclude, List.reverse_reverse]
  cases told with
  | nil => exact absurd rfl filled
  | cons => rfl

theorem Fault.parse (faulty : Fault raw error) : Description.parse raw = .error error := by
  cases faulty with
  | illegible illegible =>
      have undecoded : Utf8.decode? raw = none := Option.eq_none_iff_forall_ne_some.mpr
        fun text decoded => illegible text (Utf8.decode?_eq_some_iff.mp decoded)
      rw [parse_eq, undecoded]
      rfl
  | @unversioned text unversioned =>
      rw [parse_encode, readLines]
      cases left : (lines text).dropWhile List.isEmpty with
      | nil => rfl
      | cons first rest =>
          refine if_neg fun versioned => unversioned rest (opens_iff.mpr ?_)
          rw [left, versioned]
  | bare opens bare =>
      rw [parse_of_opens opens, foldl_preamble bare]
      rfl

/-- A body without a section has no line that opens one. -/
theorem Cut.filled_iff (cut : Cut rest preamble passages) :
    passages ≠ [] ↔ ∃ line ∈ rest, "m=".toList <+: line := by
  constructor
  · intro filled
    obtain ⟨passage, passages, rfl⟩ := List.exists_cons_of_ne_nil filled
    refine ⟨"m=".toList ++ passage.title, ?_, List.prefix_append _ _⟩
    rw [cut.whole, List.flatMap_cons, Passage.lines]
    simp
  · rintro ⟨line, member, titled⟩ rfl
    rw [cut.whole, List.flatMap_nil, List.append_nil] at member
    exact cut.before line member titled

/-- A body describes media or breaks a rule. -/
theorem written_or_fault (raw : Bytes) :
    (∃ description, Written raw description) ∨ ∃ error, Fault raw error := by
  by_cases legible : ∃ text, raw = Utf8.encode text
  · obtain ⟨text, rfl⟩ := legible
    by_cases versioned : ∃ rest, Opens text rest
    · obtain ⟨rest, opens⟩ := versioned
      obtain ⟨preamble, passages, cut⟩ := exists_cut rest
      by_cases titled : ∃ line ∈ rest, "m=".toList <+: line
      · obtain ⟨sections, told⟩ := exists_tells passages
        exact .inl ⟨⟨sections⟩, .intro opens cut (cut.filled_iff.mpr titled) told⟩
      · exact .inr ⟨.noMedia, .bare opens fun line member lead => titled ⟨line, member, lead⟩⟩
    · exact .inr ⟨.missingVersion, .unversioned (not_exists.mp versioned)⟩
  · exact .inr ⟨.notUtf8, .illegible (not_exists.mp legible)⟩

theorem parse_eq_ok_iff : parse raw = .ok description ↔ Written raw description := by
  refine ⟨fun read => ?_, Written.parse⟩
  rcases written_or_fault raw with ⟨other, written⟩ | ⟨error, faulty⟩
  · cases written.parse.symm.trans read
    exact written
  · cases faulty.parse.symm.trans read

theorem parse_eq_error_iff : parse raw = .error error ↔ Fault raw error := by
  refine ⟨fun read => ?_, Fault.parse⟩
  rcases written_or_fault raw with ⟨description, written⟩ | ⟨other, faulty⟩
  · cases written.parse.symm.trans read
  · cases faulty.parse.symm.trans read
    exact faulty

/-- Which bodies are read at all does not depend on how their sections are cut. -/
theorem exists_written_iff : (∃ description, Written raw description) ↔
    ∃ text rest, raw = Utf8.encode text ∧ Opens text rest ∧
      ∃ line ∈ rest, "m=".toList <+: line := by
  constructor
  · rintro ⟨description, opens, cut, filled, told⟩
    exact ⟨_, _, rfl, opens, cut.filled_iff.mp filled⟩
  · rintro ⟨text, rest, rfl, opens, titled⟩
    obtain ⟨preamble, passages, cut⟩ := exists_cut rest
    obtain ⟨sections, told⟩ := exists_tells passages
    exact ⟨⟨sections⟩, .intro opens cut (cut.filled_iff.mpr titled) told⟩

/-! ## What does not matter -/

/-- A line that says nothing of media, on its own in a body. -/
structure Idle (line : Text) : Prop where
  unbroken : '\n' ∉ line
  untitled : ¬ "m=".toList <+: Text.trimmed line
  uncontrolled : ¬ "a=control:".toList <+: Text.trimmed line

/-- Whether the version line, or what stands in its place, is among the lines of a body. -/
def Begun (front : Bytes) : Prop :=
  ∀ text, front = Utf8.encode text → ∃ line ∈ lines text, line ≠ []

/-- A change to a body that does not matter: an idle line more behind the version line, before
another line or as the last one, or a carriage return more at the end of a line. -/
inductive Edit : Bytes → Bytes → Prop
  | line {front : Bytes} {line : Text} (begun : Begun front) (idle : Idle line) (behind : Bytes) :
      Edit (front ++ 10 :: behind) (front ++ 10 :: (Utf8.encode line ++ 10 :: behind))
  | last {front : Bytes} {line : Text} (begun : Begun front) (idle : Idle line) :
      Edit front (front ++ 10 :: Utf8.encode line)
  | ending (front behind : Bytes) : Edit (front ++ 10 :: behind) (front ++ 13 :: 10 :: behind)

theorem decode?_line (front behind : Bytes) : Utf8.decode? (front ++ 10 :: behind) =
    (Utf8.decode? front).bind fun before =>
      (Utf8.decode? behind).map fun after => before ++ '\n' :: after :=
  @Utf8.decode?_append_ascii '\n' (by decide) front behind

theorem decode?_return (front : Bytes) :
    Utf8.decode? (front ++ [13]) = (Utf8.decode? front).map fun before => before ++ ['\r'] := by
  have ended := @Utf8.decode?_append_ascii '\r' (by decide) front []
  rw [show Utf8.decode? [] = some [] from Utf8.decode?_encode []] at ended
  exact ended.trans Option.map_eq_bind.symm

/-- Behind the version line an idle line is passed over. -/
theorem readLines_idle {front : List Text} (begun : ∃ line ∈ front, line ≠ []) (idle : Idle line)
    (behind : List Text) :
    readLines (front ++ Text.trimmed line :: behind) = readLines (front ++ behind) := by
  obtain ⟨begin, member, filled⟩ := begun
  have reached : front.dropWhile List.isEmpty ≠ [] := fun none =>
    filled (List.isEmpty_iff.mp (List.dropWhile_eq_nil_iff.mp none begin member))
  obtain ⟨first, rest, left⟩ := List.exists_cons_of_ne_nil reached
  have append (behind : List Text) :
      (front ++ behind).dropWhile List.isEmpty = first :: (rest ++ behind) := by
    rw [List.dropWhile_append, left]
    rfl
  rw [readLines, append, readLines, append]
  dsimp only
  rw [List.foldl_append, List.foldl_cons,
    takeLine_of_other _ idle.untitled idle.uncontrolled, ← List.foldl_append]

theorem Edit.parse {other : Bytes} (edit : Edit raw other) :
    Description.parse other = Description.parse raw := by
  cases edit with
  | @line front added begun idle behind =>
      rw [parse_eq, parse_eq, decode?_line, decode?_line, decode?_line,
        Utf8.decode?_encode]
      cases decoded : Utf8.decode? front with
      | none => rfl
      | some before =>
          cases Utf8.decode? behind with
          | none => rfl
          | some after =>
              have first := begun before (Utf8.decode?_eq_some_iff.mp decoded)
              have same := readLines_idle first idle (lines after)
              simpa [lines_append, lines_of_unbroken idle.unbroken] using same
  | @last _ added begun idle =>
      rw [parse_eq, parse_eq, decode?_line, Utf8.decode?_encode]
      cases decoded : Utf8.decode? raw with
      | none => rfl
      | some before =>
          have first := begun before (Utf8.decode?_eq_some_iff.mp decoded)
          have same := readLines_idle first idle []
          simpa [lines_append, lines_of_unbroken idle.unbroken] using same
  | ending front behind =>
      have split : front ++ 13 :: 10 :: behind = (front ++ [13]) ++ 10 :: behind := by simp
      rw [parse_eq, parse_eq, split, decode?_line, decode?_line, decode?_return]
      cases Utf8.decode? front with
      | none => rfl
      | some before =>
          cases Utf8.decode? behind with
          | none => rfl
          | some after =>
              dsimp only [Option.bind_some, Option.map_some, Option.elim]
              rw [lines_append, lines_append, lines_concat_return]

/-- **What a body describes.** It describes media just if it is legible, opens with the version line
and has a line behind it that opens a section; each section then tells of its medium. Otherwise the
first of these rules that it breaks is the error. Idle lines and the ends of lines do not matter. -/
theorem parse_exactly (raw : Bytes) :
    (∀ description, parse raw = .ok description ↔ Written raw description) ∧
      ((∃ description, parse raw = .ok description) ↔ ∃ text rest, raw = Utf8.encode text ∧
        Opens text rest ∧ ∃ line ∈ rest, "m=".toList <+: line) ∧
      (∀ error, parse raw = .error error ↔ Fault raw error) ∧
      ∀ other, Relation.EqvGen Edit raw other → parse other = parse raw := by
  refine ⟨fun description => parse_eq_ok_iff, ?_, fun error => parse_eq_error_iff, ?_⟩
  · exact (exists_congr fun description => parse_eq_ok_iff).trans exists_written_iff
  · intro other edits
    induction edits with
    | rel first second edit => exact edit.parse
    | refl body => rfl
    | symm first second _ ih => exact ih.symm
    | trans first second third _ _ early late => exact late.trans early

example : parse (Utf8.encode (" v=0\r\na=control:*\nm=video 0\na=control:/one\r\n" ++
      " a=control: rtsp://host/door/two/?x \ns=-\nm=").toList) =
    .ok ⟨[⟨"video".toList, "two".toList⟩, ⟨[], []⟩]⟩ := by
  decide +kernel

end Description

end MediaRelay
