import TypedSql.Proofs.Text.Position
import TypedSql.Token.Lexer

/-!
# Contiguous tokens

Tokens that stand one behind the other, each at the position that is reached after the one before it, tile their
text: the bytes at which they start and end are those of the texts that they have, and nothing is left out.
-/

namespace TypedSql

theorem Lexeme.cover_append (a b : List Lexeme) : cover (a ++ b) = cover a ++ cover b :=
  List.flatMap_append

theorem Lexeme.cover_cons (l : Lexeme) (ls : List Lexeme) : cover (l :: ls) = l.text ++ cover ls :=
  List.flatMap_cons

theorem Text.Position.advance_append (p : Position) (a b : Text) :
    p.advance (a ++ b) = (p.advance a).advance b :=
  List.foldl_append

namespace Lexer

def locate (p : Text.Position) : List Lexeme → List Located
  | [] => []
  | l :: ls => { token := l.token, start := p } :: locate (p.advance l.text) ls

def place (n : Nat) : List Lexeme → List Extent
  | [] => []
  | l :: ls => { token := l.token, start := n, stop := n + l.text.bytes } :: place (n + l.text.bytes) ls

theorem extents_locate (a : Text) (ls : List Lexeme) :
    extents (a ++ Lexeme.cover ls) (locate (Text.Position.start.advance a) ls) = place a.bytes ls := by
  induction ls generalizing a with
  | nil => rfl
  | cons l ls ih =>
    have hrest := ih (a ++ l.text)
    rw [List.append_assoc, ← Lexeme.cover_cons, Text.Position.advance_append, Text.bytes_append] at hrest
    have hstart : (Text.LineIndex.ofText (a ++ Lexeme.cover (l :: ls))).offset
        (Text.Position.start.advance a) = a.bytes := by
      rw [Text.advance_start, Text.offset_endPosition]
    unfold extents at hrest ⊢
    dsimp only at hrest ⊢
    rw [locate, List.map_cons, extend, place, hrest, hstart]
    congr 2
    cases ls with
    | nil => simp [locate, Lexeme.cover, Text.bytes_append]
    | cons m ls =>
      change (Text.LineIndex.ofText (a ++ Lexeme.cover (l :: m :: ls))).offset
        ((Text.Position.start.advance a).advance l.text) = _
      rw [← Text.Position.advance_append, Text.advance_start, Lexeme.cover_cons, ← List.append_assoc,
        Text.offset_endPosition, Text.bytes_append]

def Adjoin : Nat → List Extent → Nat → Prop
  | n, [], stop => n = stop
  | n, e :: es, stop => e.start = n ∧ Adjoin e.stop es stop

/-- The extents of lexemes in a text: they leave out nothing of it, and each has the text of its lexeme. -/
structure Tiles (t : Text) (ls : List Lexeme) (es : List Extent) : Prop where
  cover : Lexeme.cover ls = t
  adjoin : Adjoin 0 es t.bytes
  texts : es.map (fun e => (e.token, t.slice? e.start e.stop)) = ls.map fun l => (l.token, some l.text)

theorem adjoin_place (n : Nat) (ls : List Lexeme) : Adjoin n (place n ls) (n + (Lexeme.cover ls).bytes) := by
  induction ls generalizing n with
  | nil => rfl
  | cons l ls ih =>
    rw [Lexeme.cover_cons, Text.bytes_append, ← Nat.add_assoc]
    exact ⟨rfl, ih (n + l.text.bytes)⟩

theorem texts_place (a : Text) (ls : List Lexeme) :
    (place a.bytes ls).map (fun e => (e.token, (a ++ Lexeme.cover ls).slice? e.start e.stop)) =
      ls.map fun l => (l.token, some l.text) := by
  induction ls generalizing a with
  | nil => rfl
  | cons l ls ih =>
    have hrest := ih (a ++ l.text)
    rw [List.append_assoc, ← Lexeme.cover_cons, Text.bytes_append] at hrest
    have hfirst : (a ++ Lexeme.cover (l :: ls)).slice? a.bytes (a.bytes + l.text.bytes) = some l.text := by
      rw [Lexeme.cover_cons, Text.slice?_append]
    rw [place, List.map_cons, hrest, List.map_cons, hfirst]

theorem tiles_locate (ls : List Lexeme) :
    Tiles (Lexeme.cover ls) ls (extents (Lexeme.cover ls) (locate .start ls)) := by
  have hplace : extents (Lexeme.cover ls) (locate .start ls) = place 0 ls := extents_locate [] ls
  refine ⟨rfl, ?_, ?_⟩
  · simpa [hplace] using adjoin_place 0 ls
  · rw [hplace]
    exact texts_place [] ls

theorem Tiles.lexemes {t : Text} {ls : List Lexeme} {es : List Extent} (h : Tiles t ls es) :
    es.map (Extent.lexeme t) = ls := by
  have hread := congrArg (List.map fun x : Token × Option Text => (⟨x.1, x.2.getD []⟩ : Lexeme)) h.texts
  rw [List.map_map, List.map_map] at hread
  exact hread.trans (List.map_id ls)

end Lexer

end TypedSql
