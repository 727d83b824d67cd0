import UrlRouting.Proofs.Regex.Takes

/-! The same text further on in a path. What an expression reaches in a text by itself it reaches, too,
where a slash and more stand before the text, as long as it asks for no start: a slash is no part of a
word and ends no line, so only the conditions on the start of a text or a line can tell the two apart. -/

namespace UrlRouting

/-- The condition asks for the start of the text or of a line. -/
def Anchor.isStart : Anchor → Bool
  | textStart | lineStart | anyLineStart => true
  | _ => false

/-- The expression nowhere asks for the start of the text or of a line. -/
def Regex.startless : Regex → Bool
  | seq r s | alt r s => r.startless && s.startless
  | optional r _ | loop r _ _ _ | group _ r => r.startless
  | anchor condition => !condition.isStart
  | empty | one _ | run _ _ _ _ => true

/-- The place where so many characters more stand before the text, a slash the last of them. -/
def Cursor.moved (k : Nat) (c : Cursor) : Cursor := ⟨c.index + k, c.before.or (some '/'), c.rest⟩

def Reach.moved (k : Nat) (e : Reach) : Reach := ⟨e.cursor.moved k, e.captures⟩

def Rows.moved (k : Nat) (rows : Rows) : Rows := rows.map (List.map (Reach.moved k))

variable {k : Nat}

theorem Anchor.holds_moved {condition : Anchor} (late : condition.isStart = false) (c : Cursor) :
    condition.holds (c.moved k) = condition.holds c := by
  have outside (ascii : Bool) :
      (if ascii then Unicode.isAsciiWordMember else Unicode.isWordMember) '/' = false := by
    cases ascii <;> decide +kernel
  obtain ⟨index, before, rest⟩ := c
  cases condition with
  | textStart | lineStart | anyLineStart => cases late
  | textEnd | lineEnd => rfl
  | anyLineEnd => cases before <;> rfl
  | word kind ascii =>
    cases before with
    | none => simp [Anchor.holds, Cursor.moved, outside]
    | some a => rfl

namespace Reach

theorem firsts_moved {seen there : Nat} (same : ∀ i, there.testBit (i + k) = seen.testBit i)
    (es : List Reach) : firsts there (es.map (moved k)) = (firsts seen es).map (moved k) := by
  induction es generalizing seen there with
  | nil => rfl
  | cons e es ih =>
    rw [List.map_cons, firsts, firsts]
    change (if there.testBit (e.cursor.index + k) then _ else _) = _
    rw [same]
    split
    · exact ih same
    · rw [List.map_cons]
      congr 1
      apply ih
      intro i
      simp only [Nat.testBit_or, same, Nat.one_shiftLeft, Nat.testBit_two_pow]
      congr 1
      exact decide_eq_decide.2 (Nat.add_right_cancel_iff (n := k))

theorem map_after_moved (captures : List (String × List Char)) (es : List Reach) :
    (es.map (moved k)).map (after captures) = (es.map (after captures)).map (moved k) := by
  rw [List.map_map, List.map_map]
  rfl

end Reach

namespace Rows

variable {base last : Nat} {rows first second body : Rows} {places : List Cursor}

theorem getD_moved (rows : Rows) (place : Nat) :
    Array.getD (rows.moved k) place [] = (Array.getD rows place []).map (Reach.moved k) := by
  rw [Array.getD_eq_getD_getElem?, Array.getD_eq_getD_getElem?, Rows.moved, Array.getElem?_map]
  cases rows[place]? <;> rfl

theorem row_moved (rows : Rows) (base : Nat) (c : Cursor) :
    (rows.moved k).row (base + k) (c.moved k) = (rows.row base c).map (Reach.moved k) := by
  unfold row
  rw [← getD_moved]
  change Array.getD _ (c.index + k - (base + k)) [] = _
  rw [Nat.add_sub_add_right]

theorem flatMap_moved {f g : Reach → List Reach} (same : ∀ e, g (e.moved k) = (f e).map (Reach.moved k))
    (es : List Reach) : (es.map (Reach.moved k)).flatMap g = (es.flatMap f).map (Reach.moved k) := by
  rw [List.flatMap_map, List.map_flatMap]
  exact congrArg (fun f => es.flatMap f) (funext same)

theorem through_moved (next there : Cursor → List Reach)
    (same : ∀ c, there (c.moved k) = (next c).map (Reach.moved k)) (row : List Reach) :
    through there (row.map (Reach.moved k)) = (through next row).map (Reach.moved k) := by
  refine flatMap_moved (fun e => ?_) row
  change (there (e.cursor.moved k)).map (Reach.after e.captures) = _
  rw [same, Reach.map_after_moved]

theorem moved_ofPlaces {f g : Cursor → List Reach}
    (same : ∀ c ∈ places, g (c.moved k) = (f c).map (Reach.moved k)) :
    ((places.map (Cursor.moved k)).map g).toArray = Rows.moved k (places.map f).toArray := by
  rw [Rows.moved, List.map_toArray, List.map_map, List.map_map]
  congr 1
  exact List.map_congr_left same

theorem stay_moved (places : List Cursor) : stay (places.map (Cursor.moved k)) = (stay places).moved k :=
  moved_ofPlaces fun _ _ => rfl

theorem firsts_zero_moved (es : List Reach) :
    Reach.firsts 0 (es.map (Reach.moved k)) = (Reach.firsts 0 es).map (Reach.moved k) :=
  Reach.firsts_moved (fun i => by rw [Nat.zero_testBit, Nat.zero_testBit]) es

theorem compose_moved (base : Nat) (first second : Rows) :
    compose (base + k) (first.moved k) (second.moved k) = (compose base first second).moved k := by
  unfold compose Rows.moved
  rw [Array.map_map, Array.map_map]
  congr 1
  funext row
  change Reach.firsts 0 (through ((second.moved k).row (base + k)) (row.map (Reach.moved k))) = _
  rw [through_moved _ _ (fun c => row_moved second base c), firsts_zero_moved]
  rfl

theorem power_moved (base : Nat) (places : List Cursor) (body : Rows) (rounds : Nat) :
    power (base + k) (places.map (Cursor.moved k)) (body.moved k) rounds =
      (power base places body rounds).moved k := by
  induction rounds with
  | zero => exact stay_moved places
  | succ rounds ih => rw [power, power, ih, compose_moved]

theorem orStay_moved (greedy : Bool) (c : Cursor) (going : List Reach) :
    orStay greedy (c.moved k) (going.map (Reach.moved k)) = (orStay greedy c going).map (Reach.moved k) := by
  unfold orStay
  rw [← firsts_zero_moved]
  cases greedy
  · rfl
  · rw [if_pos rfl, if_pos rfl, List.map_append]
    rfl

theorem upTo_moved (base : Nat) (places : List Cursor) (greedy : Bool) (body : Rows) (rounds : Nat) :
    upTo (base + k) (places.map (Cursor.moved k)) greedy (body.moved k) rounds =
      (upTo base places greedy body rounds).moved k := by
  induction rounds with
  | zero => exact stay_moved places
  | succ rounds ih =>
    rw [upTo, upTo, ih]
    apply moved_ofPlaces
    intro c _
    rw [row_moved, through_moved _ _ (fun c => row_moved _ base c), orStay_moved]

/-- On from a round, by what is done if it has not advanced or from the rows of the later places. -/
theorem further_moved (c : Cursor) (last : Nat) (done : Rows) (still : Reach → List Reach)
    (same : ∀ e, still (e.moved k) = (still e).map (Reach.moved k)) (e : Reach) :
    (if (e.moved k).cursor.index ≤ (c.moved k).index then still (e.moved k)
      else (Array.getD (done.moved k) (last + k - (e.moved k).cursor.index) []).map
        (Reach.after (e.moved k).captures)) =
    (if e.cursor.index ≤ c.index then still e
      else (Array.getD done (last - e.cursor.index) []).map (Reach.after e.captures)).map
        (Reach.moved k) := by
  change (if e.cursor.index + k ≤ c.index + k then _
    else (Array.getD (done.moved k) (last + k - (e.cursor.index + k)) []).map (Reach.after e.captures)) = _
  rw [Nat.add_sub_add_right, getD_moved, Reach.map_after_moved, same]
  simp only [Nat.add_le_add_iff_right]
  split <;> rfl

theorem rounds_moved (last base : Nat) (greedy : Bool) (body : Rows) (places : List Cursor) :
    rounds (last + k) (base + k) greedy (body.moved k) (places.map (Cursor.moved k)) =
      (rounds last base greedy body places).moved k := by
  induction places with
  | nil =>
    rw [List.map_nil, rounds, rounds]
    exact Array.map_empty.symm
  | cons c later ih =>
    rw [List.map_cons, rounds, rounds, ih, row_moved]
    rw [flatMap_moved (further_moved c last _ (fun _ => []) fun _ => rfl), orStay_moved]
    exact Array.map_push.symm

theorem oneOrMore_moved (last base : Nat) (greedy : Bool) (places : List Cursor) (body : Rows) :
    oneOrMore (last + k) (base + k) greedy (places.map (Cursor.moved k)) (body.moved k) =
      (oneOrMore last base greedy places body).moved k := by
  rw [oneOrMore, oneOrMore, rounds_moved]
  apply moved_ofPlaces
  intro c _
  rw [row_moved, ← firsts_zero_moved]
  exact congrArg _ (flatMap_moved (further_moved c last _ (fun e => [e]) fun _ => rfl) _)

theorem loop_moved (c : Cursor) (later : List Cursor) (body : Rows) (least : Nat) (most : Option Nat)
    (greedy : Bool) :
    loop ((c :: later).map (Cursor.moved k)) (body.moved k) least most greedy =
      (loop (c :: later) body least most greedy).moved k := by
  have start : (((c :: later).map (Cursor.moved k)).head?.map (·.index)).getD 0 = c.index + k := rfl
  have finish : c.index + k + (((c :: later).map (Cursor.moved k)).length - 1) =
      c.index + ((c :: later).length - 1) + k := by
    rw [List.length_map]
    omega
  -- the rounds are bounded by the number of places, which stays the same
  unfold loop
  simp only [start, finish]
  cases most with
  | some most =>
    simp only [List.length_map, power_moved, upTo_moved]
    exact compose_moved _ _ _
  | none =>
    simp only [oneOrMore_moved]
    cases least with
    | zero =>
      apply moved_ofPlaces
      intro d _
      rw [row_moved, orStay_moved]
      rfl
    | succ least =>
      simp only [power_moved]
      exact compose_moved _ _ _

end Rows

namespace Regex

theorem climb_moved (set : CharSet) (index : Nat) (text : List Char) :
    climb set (index + k) text = (climb set index text).map (Cursor.moved k) := by
  induction text generalizing index with
  | nil => rfl
  | cons a text ih =>
    rw [climb, climb]
    split
    · rw [Nat.add_right_comm, ih]
      rfl
    · rfl

theorem runEnds_moved (set : CharSet) (least : Nat) (most : Option Nat) (greedy : Bool) (c : Cursor) :
    runEnds set least most greedy (c.moved k) = (runEnds set least most greedy c).map (Cursor.moved k) := by
  have reached : c.moved k :: climb set (c.moved k).index (c.moved k).rest =
      (c :: climb set c.index c.rest).map (Cursor.moved k) :=
    congrArg _ (climb_moved set c.index c.rest)
  unfold runEnds
  simp only [reached]
  cases most <;> cases greedy <;> simp [List.map_take, List.map_drop]

theorem leafEnds_moved {r : Regex} (startless : r.startless = true) (c : Cursor) :
    r.leafEnds (c.moved k) = (r.leafEnds c).map (Reach.moved k) := by
  cases r with
  | empty | seq | alt | optional | loop | group => rfl
  | one set =>
    obtain ⟨index, before, rest⟩ := c
    cases rest with
    | nil => rfl
    | cons a rest =>
      simp only [leafEnds, Cursor.moved]
      split
      · rw [List.map_singleton, Reach.stay, Reach.stay, Reach.moved, Cursor.moved, Nat.add_right_comm]
        rfl
      · rfl
  | anchor condition =>
    rw [leafEnds, leafEnds, Anchor.holds_moved (by simpa [Regex.startless] using startless)]
    split <;> rfl
  | run set least most greedy =>
    rw [leafEnds, leafEnds, runEnds_moved, List.map_map, List.map_map]
    rfl

theorem map_noted_moved (name : Option String) (c : Cursor) (es : List Reach) :
    (es.map (Reach.moved k)).map (noted name (c.moved k)) = (es.map (noted name c)).map (Reach.moved k) := by
  rw [List.map_map, List.map_map]
  congr 1
  funext e
  cases name with
  | none => rfl
  | some name =>
    have same : (c.moved k).upTo (e.cursor.moved k) = c.upTo e.cursor := by
      rw [Cursor.upTo, Cursor.upTo, Cursor.moved, Cursor.moved, Nat.add_sub_add_right]
    change Reach.mk _ ((name, (c.moved k).upTo (e.cursor.moved k)) :: _) = _
    rw [same]
    rfl

theorem rows_moved {r : Regex} (startless : r.startless = true) (c : Cursor) (later : List Cursor) :
    r.rows ((c :: later).map (Cursor.moved k)) = (r.rows (c :: later)).moved k := by
  induction r with
  | seq r s first second =>
    obtain ⟨left, right⟩ := Bool.and_eq_true_iff.1 startless
    rw [rows, rows, first left, second right]
    exact Rows.compose_moved _ _ _
  | alt r s first second =>
    obtain ⟨left, right⟩ := Bool.and_eq_true_iff.1 startless
    rw [rows, rows, first left, second right, Rows.moved, Rows.moved, Array.zip_map, Array.map_map,
      Rows.moved, Array.map_map]
    congr 1
    funext p
    rw [Function.comp_apply, Function.comp_apply, ← Rows.firsts_zero_moved, List.map_append]
    rfl
  | optional r greedy ih =>
    rw [rows, rows, ih startless, ← List.map_toArray, Rows.moved, Array.zip_map, Array.map_map,
      Rows.moved, Array.map_map]
    congr 1
    funext p
    exact Rows.orStay_moved greedy p.1 p.2
  | group name r ih =>
    rw [rows, rows, ih startless, ← List.map_toArray, Rows.moved, Array.zip_map, Array.map_map,
      Rows.moved, Array.map_map]
    congr 1
    funext p
    exact map_noted_moved name p.1 p.2
  | loop r least most greedy ih =>
    rw [rows, rows, ih startless]
    exact Rows.loop_moved c later _ _ _ _
  | empty | one | anchor | run =>
    exact Rows.moved_ofPlaces fun d _ => leafEnds_moved startless d

theorem places_moved (c : Cursor) : (c.moved k).places = c.places.map (Cursor.moved k) := by
  obtain ⟨index, before, text⟩ := c
  rw [Cursor.places, Cursor.places]
  change Cursor.onward (index + k) (before.or (some '/')) text = _
  induction text generalizing index before with
  | nil => rfl
  | cons a text ih =>
    rw [Cursor.onward, Cursor.onward, Nat.add_right_comm]
    exact congrArg _ (ih (index + 1) (some a))

/-- What an expression without starts reaches from a place it reaches from the place further on. -/
theorem ends_moved {r : Regex} (startless : r.startless = true) (c : Cursor) :
    r.ends (c.moved k) = (r.ends c).map (Reach.moved k) := by
  induction r generalizing c with
  | seq r s first second =>
    obtain ⟨left, right⟩ := Bool.and_eq_true_iff.1 startless
    rw [ends, ends, first left, ← Rows.firsts_zero_moved]
    have later := Rows.through_moved (fun d => s.ends d) (fun d => s.ends d) (second right) (r.ends c)
    exact congrArg _ later
  | alt r s first second =>
    obtain ⟨left, right⟩ := Bool.and_eq_true_iff.1 startless
    rw [ends, ends, first left, second right, ← List.map_append, Rows.firsts_zero_moved]
  | optional r greedy ih =>
    rw [ends, ends, ih startless]
    exact Rows.orStay_moved greedy c _
  | group name r ih =>
    rw [ends, ends, ih startless]
    exact map_noted_moved name c _
  | loop r least most greedy ih =>
    obtain ⟨d, later, places⟩ : ∃ d later, c.places = d :: later := by
      obtain ⟨index, before, text⟩ := c
      cases text <;> exact ⟨_, _, rfl⟩
    rw [ends, ends, places_moved, places, rows_moved (r := r) startless, Rows.loop_moved]
    exact Rows.row_moved _ c.index c
  | empty | one | anchor | run => exact leafEnds_moved startless c

end Regex

end UrlRouting
