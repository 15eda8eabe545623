import TypedSql.Proofs.Fallible
import TypedSql.Proofs.Text.Blank
import TypedSql.QueryHeader

/-!
# Reading query headers

The first comment that is meant to be a header decides: it is read, or there is an error. All other comments
are kept, also later ones that look like a header.
-/

namespace TypedSql

namespace Command

theorem isWord_toString (c : Command) : Text.IsWord c.toString.toList := by
  cases c <;> decide

theorem ofText_eq_ok {t : Text} {c : Command} : ofText t = .ok c ↔ t = c.toString.toList := by
  unfold ofText
  constructor
  · intro h
    split at h
    · rename_i found hfound
      cases h
      have hsame := List.find?_some hfound
      rw [eq_of_beq hsame]
      exact String.toList_ofList.symm
    · cases h
  · rintro rfl
    have hfound : all.find? (·.toString == Text.toString c.toString.toList) = some c := by
      cases c <;> rfl
    rw [hfound]
    rfl

end Command

namespace QueryHeader

/-- A line that is meant to be a header: it begins with `name` and has a colon. -/
def Announces (line : Text) : Prop :=
  "name".toList <+: line ∧ ':' ∈ line

def IsName (name : Text) : Prop :=
  ∃ c t, name = c :: t ∧ (Text.isAlphabetic c = true ∨ c = '_') ∧
    ∀ d ∈ t, Text.isAlphabetic d = true ∨ Text.isNumeric d = true ∨ d = '_'

/-- A line that gives a name and a command: two words after `name: `. -/
def Gives (line name : Text) (command : Command) : Prop :=
  IsName name ∧ ∃ gap between, Text.AllBlank gap ∧ Text.AllBlank between ∧ between ≠ [] ∧
    line = "name: ".toList ++ (gap ++ (name ++ (between ++ command.toString.toList)))

theorem isNameLine_iff {line : Text} : isNameLine line = true ↔ Announces line := by
  simp [isNameLine, Announces]

theorem isName_iff {name : Text} : isName name = true ↔ IsName name := by
  cases name with
  | nil => simp [isName, IsName]
  | cons c t => simp [isName, IsName, Text.isAlphanumeric, or_assoc]

theorem IsName.isWord {name : Text} (h : IsName name) : Text.IsWord name := by
  obtain ⟨c, t, rfl, hfirst, hrest⟩ := h
  refine ⟨List.cons_ne_nil c t, List.forall_mem_cons.mpr ⟨?_, fun d hd => ?_⟩⟩
  · rcases hfirst with hc | rfl
    · exact Text.isBlank_of_isAlphabetic hc
    · decide
  · rcases hrest d hd with hd | hd | rfl
    · exact Text.isBlank_of_isAlphabetic hd
    · exact Text.isBlank_of_isNumeric hd
    · decide

theorem parseNameLine_eq_ok {line name : Text} {command : Command}
    (hlast : Text.EndsSolid line) :
    parseNameLine line = .ok (name, command) ↔ Gives line name command := by
  constructor
  · intro h
    unfold parseNameLine at h
    split at h
    · rename_i rest
      split at h
      · cases h
      · rename_i w v hwords
        obtain ⟨found, hfound, h⟩ := bind_eq_ok.mp h
        split at h
        · rename_i hname
          cases h
          obtain ⟨gap, between, tail, rfl, hgap, -, hbetween, hne, hv, htail⟩ := Text.words_eq_pair_iff.mp hwords
          obtain rfl : tail = [] := by
            refine Text.eq_nil_of_endsSolid (t := "name: ".toList ++ (gap ++ (name ++ (between ++ v)))) ?_ htail
            simpa using hlast
          obtain rfl := Command.ofText_eq_ok.mp hfound
          refine ⟨isName_iff.mp hname, gap, between, hgap, hbetween, hne, ?_⟩
          simp
        · cases h
      · cases h
    · cases h
  · rintro ⟨hname, gap, between, hgap, hbetween, hne, rfl⟩
    have hwords : Text.words (gap ++ (name ++ (between ++ command.toString.toList))) =
        [name, command.toString.toList] :=
      Text.words_eq_pair_iff.mpr ⟨gap, between, [], by simp, hgap, hname.isWord, hbetween, hne,
        command.isWord_toString, Text.allBlank_nil⟩
    have hcommand : Command.ofText command.toString.toList = .ok command := Command.ofText_eq_ok.mpr rfl
    simp [parseNameLine, hwords, hcommand, isName_iff.mpr hname]

section

variable {before after : List Text} {line : Text}

theorem dropWhile_of_first (hbefore : ∀ c ∈ before, ¬ Announces c.trim) (hline : Announces line.trim) :
    ((before ++ line :: after).map Text.trim).dropWhile (!isNameLine ·) = line.trim :: after.map Text.trim := by
  rw [List.map_append, List.dropWhile_append_of_pos, List.map_cons, List.dropWhile_cons_of_neg]
  · simp [isNameLine_iff.mpr hline]
  · simpa [isNameLine_iff, ← Bool.not_eq_true] using hbefore

theorem takeWhile_of_first (hbefore : ∀ c ∈ before, ¬ Announces c.trim) (hline : Announces line.trim) :
    ((before ++ line :: after).map Text.trim).takeWhile (!isNameLine ·) = before.map Text.trim := by
  rw [List.map_append, List.takeWhile_append_of_pos, List.map_cons, List.takeWhile_cons_of_neg, List.append_nil]
  · simp [isNameLine_iff.mpr hline]
  · simpa [isNameLine_iff, ← Bool.not_eq_true] using hbefore

theorem parse_of_first {answer : Option QueryHeader} (hbefore : ∀ c ∈ before, ¬ Announces c.trim)
    (hline : Announces line.trim) :
    parse (before ++ line :: after) = .ok answer ↔
      ∃ name command, Gives line.trim name command ∧
        answer = some { name, command, comments := (before ++ after).map Text.trim } := by
  unfold parse
  simp only [dropWhile_of_first hbefore hline, takeWhile_of_first hbefore hline, bind_eq_ok, Prod.exists,
    parseNameLine_eq_ok (Text.endsSolid_trim line), pure_eq_ok_iff, ← List.map_append]

theorem parse_of_none {comments : List Text} (h : ∀ c ∈ comments, ¬ Announces c.trim) :
    parse comments = .ok none := by
  have hdrop : (comments.map Text.trim).dropWhile (!isNameLine ·) = [] := by
    simpa [isNameLine_iff, ← Bool.not_eq_true] using h
  unfold parse
  simp only [hdrop, pure_eq_ok]

end

theorem exists_first (comments : List Text) :
    (∀ c ∈ comments, ¬ Announces c.trim) ∨
      ∃ before line after, comments = before ++ line :: after ∧ (∀ c ∈ before, ¬ Announces c.trim) ∧
        Announces line.trim := by
  cases hfound : comments.find? (isNameLine ·.trim) with
  | none =>
    refine Or.inl fun c hc hannounces => ?_
    exact List.find?_eq_none.mp hfound c hc (isNameLine_iff.mpr hannounces)
  | some line =>
    obtain ⟨hline, before, after, rfl, hbefore⟩ := List.find?_eq_some_iff_append.mp hfound
    refine Or.inr ⟨before, line, after, rfl, fun c hc hannounces => ?_, isNameLine_iff.mp hline⟩
    have := hbefore c hc
    rw [isNameLine_iff.mpr hannounces] at this
    cases this

/-- The header of a list of comments: there is none where no trimmed comment begins with `name` and has a
colon. Otherwise the first such comment has to be `name: ` with a name and a command behind it, and all other
comments are kept. -/
theorem parse_eq_ok_iff (comments : List Text) (answer : Option QueryHeader) :
    parse comments = .ok answer ↔
      ((∀ c ∈ comments, ¬ Announces c.trim) ∧ answer = none) ∨
      ∃ before line after name command, comments = before ++ line :: after ∧
        (∀ c ∈ before, ¬ Announces c.trim) ∧ Announces line.trim ∧ Gives line.trim name command ∧
        answer = some { name, command, comments := (before ++ after).map Text.trim } := by
  constructor
  · intro h
    rcases exists_first comments with hnone | ⟨before, line, after, rfl, hbefore, hline⟩
    · rw [parse_of_none hnone] at h
      cases h
      exact Or.inl ⟨hnone, rfl⟩
    · obtain ⟨name, command, hgives, rfl⟩ := (parse_of_first hbefore hline).mp h
      exact Or.inr ⟨before, line, after, name, command, rfl, hbefore, hline, hgives, rfl⟩
  · rintro (⟨hnone, rfl⟩ | ⟨before, line, after, name, command, rfl, hbefore, hline, hgives, rfl⟩)
    · exact parse_of_none hnone
    · exact (parse_of_first hbefore hline).mpr ⟨name, command, hgives, rfl⟩

end QueryHeader

end TypedSql
