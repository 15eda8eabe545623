import TypedSql.Script
import TypedSql.Proofs.Site.Order

/-!
# Sites stand in the text

A site is a piece of the text at the place that it names. The recognisers take that place from different
lexemes: a wildcard looks back to the first word of its qualifier, a call and a sigil look ahead. In each
of the three lists the sites come in the order of the text, and no place has two.
-/

namespace TypedSql

theorem Lexeme.Spans.slice?_eq {ls : List Lexeme} {location : Nat} {text : Text}
    (h : Spans ls location text) : (cover ls).slice? location (location + text.bytes) = some text := by
  obtain ⟨a, g, b, rfl, rfl, rfl, -, -⟩ := h
  rw [cover_append, cover_append]
  exact Text.slice?_append _ _ _

namespace Sites

variable {location : Nat} {before rest : List Lexeme} {l : Lexeme} {s : Sites}

theorem pairwise_of_steps {f : Nat → List Lexeme → List Lexeme → List Nat}
    (hnil : ∀ location before, f location before [] = [])
    (hcons : ∀ location before l rest,
      f location before (l :: rest) = f (location + l.text.bytes) (l :: before) rest ∨
      f location before (l :: rest) = location :: f (location + l.text.bytes) (l :: before) rest)
    (h : ∀ l ∈ rest, l.text ≠ []) (location : Nat) (before : List Lexeme) :
    (∀ n ∈ f location before rest, location ≤ n) ∧ (f location before rest).Pairwise (· < ·) := by
  induction rest generalizing location before with
  | nil => simp [hnil]
  | cons l rest ih =>
    obtain ⟨hle, hpairwise⟩ := ih (fun x hx => h x (.tail _ hx)) (location + l.text.bytes) (l :: before)
    have hpos : 0 < l.text.bytes := Text.bytes_pos (h l (.head _))
    have hlt : ∀ n ∈ f (location + l.text.bytes) (l :: before) rest, location < n := by
      intro n hn
      have := hle n hn
      omega
    rcases hcons location before l rest with hsame | hnew
    · rw [hsame]
      exact ⟨fun n hn => Nat.le_of_lt (hlt n hn), hpairwise⟩
    · rw [hnew]
      refine ⟨fun n hn => ?_, List.pairwise_cons.mpr ⟨hlt, hpairwise⟩⟩
      rcases List.mem_cons.mp hn with rfl | hn
      · exact Nat.le_refl n
      · exact Nat.le_of_lt (hlt n hn)

theorem addAt_named_location :
    (addAt location before l rest s).named.map NamedSite.location = s.named.map NamedSite.location ∨
      (addAt location before l rest s).named.map NamedSite.location =
        location :: s.named.map NamedSite.location := by
  obtain ⟨hsame, -⟩ | ⟨site, hnew, -, hfound⟩ | ⟨-, hsame, -⟩ := @addAt_cases location before rest l s
  · exact .inl (by rw [hsame])
  · right
    have hlocation : site.location = location := by
      rcases hfound with ⟨-, hsigil⟩ | ⟨-, hcall⟩
      · obtain ⟨-, -, hlocation, -⟩ := sigil?_eq_some hsigil
        exact hlocation
      · exact (namedCall?_encloses hcall).1
    rw [hnew, List.map_cons, hlocation]
  · exact .inl (by rw [hsame])

theorem addAt_positional_location :
    (addAt location before l rest s).positional.map PositionalSite.location =
        s.positional.map PositionalSite.location ∨
      (addAt location before l rest s).positional.map PositionalSite.location =
        location :: s.positional.map PositionalSite.location := by
  rw [addAt_positional]
  cases l.token.placeholder? with
  | none => exact .inl rfl
  | some number => exact .inr rfl

theorem scan_named_pairwise {ls : List Lexeme} (h : ∀ l ∈ ls, l.text ≠ []) :
    (scan ls).named.Pairwise (·.location < ·.location) := by
  have hplaces := pairwise_of_steps
    (f := fun location before rest => (scanFrom location before rest).named.map NamedSite.location)
    (fun _ _ => rfl) (fun _ _ _ _ => addAt_named_location) h 0 []
  exact List.pairwise_map.mp hplaces.2

theorem scan_positional_pairwise {ls : List Lexeme} (h : ∀ l ∈ ls, l.text ≠ []) :
    (scan ls).positional.Pairwise (·.location < ·.location) := by
  have hplaces := pairwise_of_steps
    (f := fun location before rest =>
      (scanFrom location before rest).positional.map PositionalSite.location)
    (fun _ _ => rfl) (fun _ _ _ _ => addAt_positional_location) h 0 []
  exact List.pairwise_map.mp hplaces.2

end Sites

namespace Script

/-- A text with lexemes has sites. Each wildcard and each named parameter stands in the text where its site
says, and the sites of each kind stand in the order of the text. -/
theorem sites_verbatim {t : Text} {ls : List Lexeme} (h : Lexer.lex t = some ls) :
    ∃ s, sites t = .ok s ∧
      (∀ site ∈ s.stars, t.slice? site.location (site.location + site.text.bytes) = some site.text) ∧
      (∀ site ∈ s.named, t.slice? site.location (site.location + site.text.bytes) = some site.text) ∧
      s.stars.Pairwise (·.location < ·.location) ∧ s.named.Pairwise (·.location < ·.location) ∧
      s.positional.Pairwise (·.location < ·.location) := by
  have hsites : sites t = .ok (Sites.scan ls) := by
    rw [sites, h]
    rfl
  obtain ⟨hreads, rfl⟩ := Lexer.lex_eq_some_iff.mp h
  have hlie := Sites.scan_lie ls
  have hne := hreads.text_ne_nil
  exact ⟨Sites.scan ls, hsites, fun site hsite => (hlie.stars site hsite).slice?_eq,
    fun site hsite => (hlie.named site hsite).slice?_eq, Sites.scan_stars_pairwise hne,
    Sites.scan_named_pairwise hne, Sites.scan_positional_pairwise hne⟩

theorem sites_verbatim_qualified :
    let t : Text := "SELECT \"é\" . /* é */ t.*, sqlc.embed(t), @é, sqlc.arg('b') + $2 - $1".toList
    ∃ ls s, Lexer.lex t = some ls ∧ sites t = .ok s ∧ s.stars.map StarSite.location = [7, 28] ∧
      s.named.map NamedSite.location = [43, 48] ∧ s.positional.map PositionalSite.location = [64, 69] ∧
      (∀ site ∈ s.stars, t.slice? site.location (site.location + site.text.bytes) = some site.text) ∧
      ∀ site ∈ s.named, t.slice? site.location (site.location + site.text.bytes) = some site.text := by
  intro t
  obtain ⟨ls, hls⟩ : ∃ ls, Lexer.lex t = some ls := Option.isSome_iff_exists.mp (by decide +kernel)
  obtain ⟨s, hs, hstars, hnamed, -⟩ := sites_verbatim hls
  have hplaces : (sites t).toOption.map (fun s => (s.stars.map StarSite.location,
      s.named.map NamedSite.location, s.positional.map PositionalSite.location)) =
      some ([7, 28], [43, 48], [64, 69]) := by
    decide +kernel
  rw [hs] at hplaces
  obtain ⟨hplace, hplace', hplace''⟩ : _ ∧ _ ∧ _ := by simpa [Except.toOption] using hplaces
  exact ⟨ls, s, hls, hs, hplace, hplace', hplace'', hstars, hnamed⟩

end Script

end TypedSql
