import TypedSql.Lower
import TypedSql.Proofs.Ident
import TypedSql.Proofs.Scope.ColumnList
import TypedSql.Proofs.Sql.Quoted
import TypedSql.Proofs.Text.Blank

/-!
# Names of a column list

The names that a named query gives its columns are taken from their printed form: the first word of it, without
the quotes around it. This is the name of the identifier only where the printed identifier is one word that
holds the name as it is: a blank ends the word, and a quote inside the quotes is printed twice.
-/

namespace TypedSql.Lower

def InQuotes (t : Text) : Prop :=
  ∃ inner, t = '"' :: (inner ++ ['"'])

theorem wordName_inQuotes (inner : Text) : wordName ('"' :: (inner ++ ['"'])) = inner := by
  simp [wordName]

theorem wordName_of_not_inQuotes {word : Text} (h : ¬ InQuotes word) : wordName word = word.lower := by
  unfold wordName
  split
  · rename_i rest
    split
    · rename_i inner hrest
      exact absurd ⟨inner.reverse, by rw [← List.reverse_reverse rest, hrest]; simp⟩ h
    · rfl
  · rfl

theorem solid_wordName {word : Text} (h : Text.Solid word) : Text.Solid (wordName word) := by
  by_cases hquotes : InQuotes word
  · obtain ⟨inner, rfl⟩ := hquotes
    rw [wordName_inQuotes]
    exact fun c hc => h c (by simp [hc])
  · rw [wordName_of_not_inQuotes hquotes]
    exact Text.solid_lower_iff.mpr h

theorem printedName_word_append {w rest : Text} (hw : Text.IsWord w) (hend : Text.AtWordEnd rest) :
    printedName (w ++ rest) = wordName w := by
  rw [printedName, Text.words_word_append hw hend]
  rfl

theorem solid_printedName (t : Text) : Text.Solid (printedName t) := by
  unfold printedName
  rcases Text.words_cases t with ⟨-, hwords⟩ | ⟨gap, w, rest, -, -, hw, -, hwords⟩
  · rw [hwords]
    simp [Text.Solid]
  · rw [hwords]
    exact solid_wordName hw.solid

def typeText : Option Sql.DataType → Text
  | none => []
  | some type => ' ' :: type.text.toList

theorem atWordEnd_typeText (type : Option Sql.DataType) : Text.AtWordEnd (typeText type) := by
  cases type with
  | none => exact Text.atWordEnd_nil
  | some type =>
    have hspace : Text.AllBlank [' '] := by decide
    exact Text.atWordEnd_append hspace (by decide) _

theorem toList_columnText (i : Sql.Ident) (type : Option Sql.DataType) :
    (Sql.columnText (i, type)).toList = i.render.toList ++ typeText type := by
  cases type with
  | none => simp [Sql.columnText, typeText]
  | some type => simp [Sql.columnText, typeText]

theorem isWord_quoted {quote : Char} {t : Text} (hquote : Text.isBlank quote = false) (h : Text.Solid t) :
    Text.IsWord (quote :: (Sql.escapeQuotes quote '\x00' t ++ [quote])) := by
  refine ⟨List.cons_ne_nil _ _, fun c hc => ?_⟩
  simp only [List.mem_cons, List.mem_append, List.not_mem_nil, or_false] at hc
  rcases hc with rfl | hc | rfl
  · exact hquote
  · exact h c (Sql.mem_of_mem_escapeQuotes hc)
  · exact hquote

/-- The identifiers that a column list reads like any other: without blanks, and printed as they are. A bare
word is printed as it is, and must not look like a quoted one; between double quotes all quotes must come in
pairs or stand behind a backslash. Without any text the type would be taken for the name. -/
def ReadsBack (i : Sql.Ident) (type : Option Sql.DataType) : Prop :=
  Text.Solid i.text ∧
    match i.quote with
    | none => ¬ InQuotes i.text ∧ (i.text = [] → printedName (typeText type) = [])
    | some quote => quote = '"' ∧ Sql.PairedFrom '"' '\x00' i.text

section

variable {t : Text}

theorem printedName_bare_iff (type : Option Sql.DataType) (h : Text.Solid t) :
    printedName (t ++ typeText type) = t.lower ↔ ¬ InQuotes t ∧ (t = [] → printedName (typeText type) = []) := by
  by_cases hnil : t = []
  · subst hnil
    simp [InQuotes, Text.lower, Text.lowerFrom]
  · rw [printedName_word_append ⟨hnil, h⟩ (atWordEnd_typeText type)]
    by_cases hquotes : InQuotes t
    · obtain ⟨inner, rfl⟩ := hquotes
      have hlength := Text.length_le_lower ('"' :: (inner ++ ['"']))
      rw [wordName_inQuotes]
      refine iff_of_false (fun hinner => ?_) (fun h => h.1 ⟨inner, rfl⟩)
      rw [← hinner] at hlength
      simp only [List.length_cons, List.length_append, List.length_nil] at hlength
      omega
    · exact iff_of_true (wordName_of_not_inQuotes hquotes) ⟨hquotes, fun h => absurd h hnil⟩

theorem printedName_quoted_iff {quote : Char} (type : Option Sql.DataType) (hquote : Text.isBlank quote = false)
    (h : Text.Solid t) :
    printedName (quote :: (Sql.escapeQuotes quote '\x00' t ++ [quote]) ++ typeText type) = t ↔
      quote = '"' ∧ Sql.PairedFrom '"' '\x00' t := by
  rw [printedName_word_append (isWord_quoted hquote h) (atWordEnd_typeText type)]
  by_cases hq : quote = '"'
  · subst hq
    rw [wordName_inQuotes, Sql.escapeQuotes_eq_self_iff (by decide)]
    simp
  · refine iff_of_false (fun hlower => ?_) (fun h => hq h.1)
    have hquotes : ¬ InQuotes (quote :: (Sql.escapeQuotes quote '\x00' t ++ [quote])) := by
      rintro ⟨inner, heq⟩
      exact hq (List.cons.inj heq).1
    rw [wordName_of_not_inQuotes hquotes] at hlower
    have hlength := Text.length_le_lower (quote :: (Sql.escapeQuotes quote '\x00' t ++ [quote]))
    have hescaped := Sql.length_le_escapeQuotes quote '\x00' t
    rw [hlower] at hlength
    simp only [List.length_cons, List.length_append, List.length_nil] at hlength
    omega

end

theorem toString_eq_iff {s t : Text} : Text.toString s = Text.toString t ↔ s = t :=
  ⟨fun h => String.ofList_injective h, congrArg Text.toString⟩

theorem toList_toString (t : Text) : (Text.toString t).toList = t :=
  String.toList_ofList

theorem solid_name_iff {i : Sql.Ident} : Text.Solid i.name.toList ↔ Text.Solid i.text := by
  unfold Sql.Ident.name
  split
  · rw [toList_toString]
  · rw [toList_toString, Text.solid_lower_iff]

theorem columnName_iff {i : Sql.Ident} (type : Option Sql.DataType)
    (hquote : ∀ quote, i.quote = some quote → Text.isBlank quote = false) :
    columnName (i, type) = i.name ↔ ReadsBack i type := by
  by_cases hsolid : Text.Solid i.text
  · rw [columnName, toList_columnText, ReadsBack, and_iff_right hsolid]
    obtain ⟨text, quote⟩ := i
    cases quote with
    | none =>
      simp only [Sql.Ident.render, Sql.Ident.name, toString_eq_iff, toList_toString]
      exact printedName_bare_iff type hsolid
    | some quote =>
      simp only [Sql.Ident.render, Sql.quoted, Sql.Ident.name, toString_eq_iff, String.toList_ofList]
      exact printedName_quoted_iff type (hquote quote rfl) hsolid
  · refine iff_of_false (fun hname => ?_) (fun h => hsolid h.1)
    rw [← solid_name_iff, ← hname, columnName, toList_toString] at hsolid
    exact hsolid (solid_printedName _)

theorem readsBack_iff_of_doubled {i : Sql.Ident} (type : Option Sql.DataType) (hquote : i.quote = some '"')
    (hprinted : Sql.escapeQuotes '"' '\x00' i.text = Ident.doubleQuotes i.text) :
    ReadsBack i type ↔ Text.Solid i.text ∧ '"' ∉ i.text := by
  rw [ReadsBack, hquote, ← Sql.escapeQuotes_eq_self_iff (by decide), hprinted, Ident.doubleQuotes_eq_self_iff]
  simp

/-- A name of a column list is read as the identifier that it is, if and only if the identifier reads back. For
a quoted identifier whose quotes are all printed twice this means that it has no blank and no quote. A column
of the named query can be referred to by the identifier that is given for it in the same cases. -/
theorem columnName_eq_name_iff (i : Sql.Ident) (type : Option Sql.DataType)
    (hquote : ∀ quote, i.quote = some quote → Text.isBlank quote = false) :
    (columnName (i, type) = i.name ↔ ReadsBack i type) ∧
      (i.quote = some '"' → Sql.escapeQuotes '"' '\x00' i.text = Ident.doubleQuotes i.text →
        (ReadsBack i type ↔ Text.Solid i.text ∧ '"' ∉ i.text)) ∧
      ∀ (scope scope' : Scope) (cte : Cte) (k : Nat), cte.columns[k]? = some (columnName (i, type)) →
        scope.addCte cte = .ok scope' →
        ∃ t, scope'.ctes.get? cte.name = some t ∧
          ∀ c, t.columns[k]? = some c → (c.name = i.name ↔ ReadsBack i type) := by
  refine ⟨columnName_iff type hquote, readsBack_iff_of_doubled type, fun scope scope' cte k hk h => ?_⟩
  obtain ⟨cs, -, rfl⟩ := Scope.addCte_eq_ok h
  refine ⟨_, Dict.get?_insert_self _ _ _, fun c hc => ?_⟩
  rw [Scope.getElem?_nameColumns] at hc
  obtain ⟨d, -, rfl⟩ := Option.map_eq_some_iff.mp hc
  rw [hk]
  exact columnName_iff type hquote

def quotedColumn : Cte :=
  let select : Select := ⟨false, [⟨.cast (.literal (.number "1")) (.ofName "int"), none⟩], [], none, [], none⟩
  ⟨"t", ["Größe"], ⟨[], .select select, [], none, none⟩⟩

theorem columnName_eq_name_iff_capital :
    let i : Sql.Ident := { text := "Größe".toList, quote := some '"' }
    let type : Sql.DataType := { text := "INT", type := .ofName "int" }
    (∀ quote, i.quote = some quote → Text.isBlank quote = false) ∧ columnName (i, some type) = i.name ∧
      ∃ scope' t c, Scope.addCte { catalog := .initial {} } quotedColumn = .ok scope' ∧
        scope'.ctes.get? "t" = some t ∧ t.columns[0]? = some c ∧ c.name = i.name := by
  intro i type
  have hquote : ∀ quote, i.quote = some quote → Text.isBlank quote = false := by
    rintro _ ⟨⟩
    decide
  have hback : ReadsBack i (some type) :=
    ⟨by decide, rfl, (Sql.escapeQuotes_eq_self_iff (by decide)).mp (by decide)⟩
  have hiff := columnName_eq_name_iff i (some type) hquote
  have hfirst : ((Scope.addCte { catalog := .initial {} } quotedColumn).toOption.map fun scope' =>
      ((scope'.ctes.get? "t").bind (·.columns[0]?)).isSome) = some true := by
    decide +kernel
  obtain ⟨scope', h, hsome⟩ := exists_of_map_toOption hfirst
  obtain ⟨t, ht, hcolumn⟩ := hiff.2.2 _ scope' quotedColumn 0 (by decide +kernel) h
  rw [show "t" = quotedColumn.name from rfl, ht, Option.bind_some, Option.isSome_iff_exists] at hsome
  obtain ⟨c, hc⟩ := hsome
  exact ⟨hquote, hiff.1.mpr hback, scope', t, c, h, ht, hc, (hcolumn c hc).mpr hback⟩

/-- A quoted identifier with a blank is cut off at the blank, and one with a quote is read with two. -/
theorem columnName_cut_and_doubled :
    columnName ({ text := "a b".toList, quote := some '"' }, none) = "\"a" ∧
      columnName ({ text := "a\"b".toList, quote := some '"' }, none) = "a\"\"b" ∧
      Sql.Ident.name { text := "a b".toList, quote := some '"' } = "a b" ∧
      Sql.Ident.name { text := "a\"b".toList, quote := some '"' } = "a\"b" := by
  decide +kernel

end TypedSql.Lower
