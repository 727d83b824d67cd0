import UrlRouting.Proofs.Regex.Takes

/-! Expressions that take all of the text left. A matcher stays within its text, whatever rounds it
makes, so a way to the end of the text is one of the ways it keeps, if there is any. -/

namespace UrlRouting

/-- The second place lies in the text ahead of the first. -/
def Cursor.Leads (c d : Cursor) : Prop := ∃ x, x <+: c.rest ∧ d = c.past x

namespace Cursor

theorem Leads.refl (c : Cursor) : c.Leads c := ⟨[], List.nil_prefix, rfl⟩

theorem Leads.past {b c : Cursor} (leads : b.Leads c) {x : List Char} (ahead : x <+: c.rest) :
    b.Leads (c.past x) := by
  obtain ⟨y, first, rfl⟩ := leads
  exact ⟨y ++ x, prefix_append first ahead, past_past b y x⟩

theorem leads_of_mem_places {c d : Cursor} (place : d ∈ c.places) : c.Leads d := by
  obtain ⟨index, before, text⟩ := c
  rw [places] at place
  induction text generalizing index before with
  | nil =>
    obtain rfl := List.mem_singleton.1 place
    exact .refl _
  | cons a text ih =>
    rcases List.mem_cons.1 place with rfl | later
    · exact .refl _
    · obtain ⟨x, ahead, rfl⟩ := ih _ _ later
      refine ⟨a :: x, List.cons_prefix_cons.2 ⟨rfl, ahead⟩, ?_⟩
      have joined := past_past ⟨index, before, a :: text⟩ [a] x
      rwa [past_singleton rfl] at joined

end Cursor

namespace Rows

/-- All that is reached lies in the text ahead of the place. -/
def Within (b : Cursor) (rows : Rows) : Prop := ∀ row ∈ rows, ∀ e ∈ row, b.Leads e.cursor

variable {b : Cursor} {base last : Nat} {rows first second body : Rows} {places : List Cursor} {e : Reach}

theorem Within.getD (within : rows.Within b) {place : Nat} (reached : e ∈ Array.getD rows place []) :
    b.Leads e.cursor := by
  by_cases inside : place < rows.size
  · rw [Array.getD, dif_pos inside] at reached
    exact within _ (Array.getElem_mem inside) e reached
  · rw [Array.getD, dif_neg inside] at reached
    cases reached

theorem Within.row (within : rows.Within b) {c : Cursor} (reached : e ∈ rows.row base c) :
    b.Leads e.cursor :=
  within.getD reached

theorem within_map {f : Cursor → List Reach}
    (inside : ∀ c ∈ places, ∀ e ∈ f c, b.Leads e.cursor) : Rows.Within b (places.map f).toArray := by
  intro row member e reached
  obtain ⟨c, place, rfl⟩ := List.mem_map.1 (List.mem_toArray.1 member)
  exact inside c place e reached

theorem within_stay (inside : ∀ c ∈ places, b.Leads c) : (stay places).Within b :=
  within_map fun c place e reached => by
    obtain rfl := List.mem_singleton.1 reached
    exact inside c place

theorem mem_through (next : Cursor → List Reach) {row : List Reach} (reached : e ∈ through next row) :
    ∃ f ∈ row, ∃ g ∈ next f.cursor, e = g.after f.captures := by
  obtain ⟨f, first, later⟩ := List.mem_flatMap.1 reached
  obtain ⟨g, second, rfl⟩ := List.mem_map.1 later
  exact ⟨f, first, g, second, rfl⟩

theorem within_compose (within : second.Within b) : (compose base first second).Within b := by
  intro row member e reached
  obtain ⟨before, _, rfl⟩ := Array.mem_map.1 member
  obtain ⟨f, _, g, later, rfl⟩ := mem_through _ (Reach.mem_of_mem_firsts reached)
  exact within.row (e := g) later

theorem leads_of_mem_orStay {greedy : Bool} {c : Cursor} {going : List Reach} (here : b.Leads c)
    (within : ∀ e ∈ going, b.Leads e.cursor) (reached : e ∈ orStay greedy c going) :
    b.Leads e.cursor := by
  rcases Regex.mem_orStay_choices.1 (Reach.mem_of_mem_firsts reached) with going | rfl
  · exact within e going
  · exact here

theorem within_upTo (inside : ∀ c ∈ places, b.Leads c) {greedy : Bool} (rounds : Nat) :
    (upTo base places greedy body rounds).Within b := by
  induction rounds with
  | zero => exact within_stay inside
  | succ rounds ih =>
    refine within_map fun c place e reached => ?_
    refine leads_of_mem_orStay (inside c place) (fun e going => ?_) reached
    obtain ⟨f, _, g, later, rfl⟩ := mem_through _ going
    exact ih.row (e := g) later

/-- On from a round that has advanced, as the rows of the later places have it. -/
theorem leads_of_mem_further {done : Rows} (within : done.Within b) {captures : List (String × List Char)}
    {place : Nat} (reached : e ∈ (done.getD place []).map (Reach.after captures)) :
    b.Leads e.cursor := by
  obtain ⟨f, going, rfl⟩ := List.mem_map.1 reached
  exact within.getD (e := f) going

theorem within_rounds (inside : ∀ c ∈ places, b.Leads c) {greedy : Bool} :
    (rounds last base greedy body places).Within b := by
  induction places with
  | nil => exact nofun
  | cons c later ih =>
    obtain ⟨here, after⟩ := List.forall_mem_cons.1 inside
    have done := ih after
    intro row member e reached
    rcases Array.mem_push.1 member with earlier | rfl
    · exact done row earlier e reached
    · refine leads_of_mem_orStay here (fun e going => ?_) reached
      obtain ⟨f, _, further⟩ := List.mem_flatMap.1 going
      split at further
      next => cases further
      next => exact leads_of_mem_further done further

theorem within_oneOrMore (inside : ∀ c ∈ places, b.Leads c) (within : body.Within b) {greedy : Bool} :
    (oneOrMore last base greedy places body).Within b := by
  refine within_map fun c place e reached => ?_
  obtain ⟨f, first, further⟩ := List.mem_flatMap.1 (Reach.mem_of_mem_firsts reached)
  split at further
  next =>
    obtain rfl := List.mem_singleton.1 further
    exact within.row first
  next => exact leads_of_mem_further (within_rounds inside) further

theorem within_loop (inside : ∀ c ∈ places, b.Leads c) (within : body.Within b) (least : Nat)
    (most : Option Nat) (greedy : Bool) : (loop places body least most greedy).Within b := by
  cases most with
  | some most => exact within_compose (within_upTo inside _)
  | none =>
    cases least with
    | zero =>
      refine within_map fun c place e reached => ?_
      exact leads_of_mem_orStay (inside c place)
        (fun e going => (within_oneOrMore inside within).row going) reached
    | succ least => exact within_compose (within_oneOrMore inside within)

end Rows

namespace Regex

variable {b : Cursor} {places : List Cursor} {c : Cursor} {e : Reach} {r s : Regex}

theorem leads_of_mem_leafEnds (here : b.Leads c) (reached : e ∈ r.leafEnds c) : b.Leads e.cursor := by
  cases r with
  | empty =>
    obtain rfl := List.mem_singleton.1 reached
    exact here
  | one set =>
    rw [leafEnds] at reached
    split at reached
    next a rest ahead =>
      split at reached
      next =>
        obtain rfl := List.mem_singleton.1 reached
        rw [Reach.stay, ← Cursor.past_singleton ahead]
        exact here.past ⟨rest, ahead.symm⟩
      next => cases reached
    next => cases reached
  | anchor condition =>
    rw [leafEnds] at reached
    split at reached
    next =>
      obtain rfl := List.mem_singleton.1 reached
      exact here
    next => cases reached
  | run set least most greedy =>
    obtain ⟨d, end_, rfl⟩ := List.mem_map.1 reached
    obtain ⟨x, ahead, _, _, _, rfl⟩ := mem_runEnds.1 end_
    exact here.past ahead
  | seq | alt | optional | loop | group => cases reached

theorem within_rows (r : Regex) (inside : ∀ c ∈ places, b.Leads c) : (r.rows places).Within b := by
  induction r with
  | seq r s _ second => exact Rows.within_compose second
  | alt r s first second =>
    intro row member e reached
    obtain ⟨p, pair, rfl⟩ := Array.mem_map.1 member
    obtain ⟨left, right⟩ := Array.of_mem_zip pair
    rcases List.mem_append.1 (Reach.mem_of_mem_firsts reached) with here | here
    · exact first _ left e here
    · exact second _ right e here
  | optional r greedy ih =>
    intro row member e reached
    obtain ⟨p, pair, rfl⟩ := Array.mem_map.1 member
    obtain ⟨place, body⟩ := Array.of_mem_zip pair
    exact Rows.leads_of_mem_orStay (inside p.1 (List.mem_toArray.1 place)) (ih _ body) reached
  | group name r ih =>
    intro row member e reached
    obtain ⟨p, pair, rfl⟩ := Array.mem_map.1 member
    obtain ⟨_, body⟩ := Array.of_mem_zip pair
    obtain ⟨f, going, rfl⟩ := List.mem_map.1 reached
    cases name <;> exact ih _ body f going
  | loop r least most greedy ih => exact Rows.within_loop inside ih least most greedy
  | empty | one | anchor | run =>
    exact Rows.within_map fun c place e reached => leads_of_mem_leafEnds (inside c place) reached

theorem mem_ends_seq (reached : e ∈ (seq r s).ends c) :
    ∃ f ∈ r.ends c, ∃ g ∈ s.ends f.cursor, e = g.after f.captures :=
  Rows.mem_through (fun d => s.ends d) (Reach.mem_of_mem_firsts reached)

theorem leads_of_mem_ends (here : b.Leads c) (reached : e ∈ r.ends c) : b.Leads e.cursor := by
  induction r generalizing c e with
  | seq r s first second =>
    obtain ⟨f, start, g, later, rfl⟩ := mem_ends_seq reached
    exact second (e := g) (first here start) later
  | alt r s first second =>
    rcases List.mem_append.1 (Reach.mem_of_mem_firsts reached) with left | right
    · exact first here left
    · exact second here right
  | optional r greedy ih => exact Rows.leads_of_mem_orStay here (fun e going => ih here going) reached
  | group name r ih =>
    obtain ⟨f, going, rfl⟩ := List.mem_map.1 reached
    cases name <;> exact ih (e := f) here going
  | loop r least most greedy _ =>
    have inside : ∀ d ∈ c.places, b.Leads d := fun d place => by
      obtain ⟨x, ahead, rfl⟩ := Cursor.leads_of_mem_places place
      exact here.past ahead
    exact (Rows.within_loop inside (within_rows r inside) least most greedy).row reached
  | empty | one | anchor | run => exact leads_of_mem_leafEnds here reached

/-- The expression can take all of the text from the place on. -/
def Fills (r : Regex) (c : Cursor) : Prop := ∃ e ∈ r.ends c, e.cursor.rest = []

theorem exists_mem_firsts_of_rest {es : List Reach} (ahead : ∀ e ∈ es, c.Leads e.cursor) (member : e ∈ es)
    (ended : e.cursor.rest = []) : ∃ f ∈ Reach.firsts 0 es, f.cursor.rest = [] := by
  obtain ⟨x, stretch, leads⟩ := ahead e member
  obtain ⟨f, found, same⟩ := Reach.exists_mem_firsts_past ahead member stretch leads
  exact ⟨f, found, by rw [same, ← leads, ended]⟩

theorem fills_seq : (seq r s).Fills c ↔ ∃ f ∈ r.ends c, s.Fills f.cursor := by
  constructor
  · intro given
    obtain ⟨e, reached, ended⟩ := given
    obtain ⟨f, first, g, second, rfl⟩ := mem_ends_seq reached
    exact ⟨f, first, g, second, ended⟩
  · intro given
    obtain ⟨f, first, g, second, ended⟩ := given
    refine exists_mem_firsts_of_rest (c := c) (fun e member => ?_)
      (List.mem_flatMap.2 ⟨f, first, List.mem_map_of_mem second⟩) ended
    obtain ⟨f, first, g, second, rfl⟩ := Rows.mem_through (fun d => s.ends d) member
    exact leads_of_mem_ends (e := g) (leads_of_mem_ends (.refl c) first) second

theorem fills_optional {greedy : Bool} : (optional r greedy).Fills c ↔ r.Fills c ∨ c.rest = [] := by
  constructor
  · intro given
    obtain ⟨e, reached, ended⟩ := given
    rcases mem_orStay_choices.1 (Reach.mem_of_mem_firsts reached) with going | rfl
    · exact .inl ⟨e, going, ended⟩
    · exact .inr ended
  · intro given
    have ahead : ∀ e ∈ (if greedy then r.ends c ++ [Reach.stay c] else Reach.stay c :: r.ends c),
        c.Leads e.cursor := by
      intro e member
      rcases mem_orStay_choices.1 member with going | rfl
      · exact leads_of_mem_ends (.refl c) going
      · exact .refl c
    rcases given with ⟨e, going, ended⟩ | ended
    · exact exists_mem_firsts_of_rest ahead (mem_orStay_choices.2 (.inl going)) ended
    · exact exists_mem_firsts_of_rest ahead (mem_orStay_choices.2 (.inr rfl)) ended

theorem fills_group {name : Option String} : (group name r).Fills c ↔ r.Fills c := by
  constructor
  · intro given
    obtain ⟨_, reached, ended⟩ := given
    obtain ⟨e, going, rfl⟩ := List.mem_map.1 reached
    exact ⟨e, going, by cases name <;> exact ended⟩
  · intro given
    obtain ⟨e, going, ended⟩ := given
    exact ⟨noted name c e, List.mem_map_of_mem going, by cases name <;> exact ended⟩

end Regex

end UrlRouting
