import UrlRouting.Proofs.Percent.Encode
import UrlRouting.Proofs.Percent.Octets
import UrlRouting.Proofs.Text.Boundary
import UrlRouting.Proofs.Traversal

/-! Queries as they are read. The marks that divide a query are escaped in its names and values, so a query
that was written is read as the pairs it was written from. -/

namespace UrlRouting.Percent

variable {d : Char}

/-- The text that an encoded text stands for: that of its bytes, in which a plus sign is a blank. -/
def decode? (s : List Char) : Option String := (utf8? (octets s)).map String.ofList

/-- A name and a value, with the first equals sign between them; without one the value is empty. -/
def readPair? (s : List Char) : Option (String × String) := do
  let name ← decode? (cut '=' s).1
  let value ← decode? ((cut '=' s).2.getD [])
  some (name, value)

/-- The pairs of a query, with ampersands between them; an empty stretch is no pair. -/
def readQuery? (s : List Char) : Option (List (String × String)) :=
  ((s.splitOn '&').filter (!·.isEmpty)).mapM readPair?

theorem octets_escapeByte (bytes : List UInt8) (rest : List Char) :
    octets (bytes.flatMap escapeByte ++ rest) = bytes ++ octets rest := by
  induction bytes with
  | nil => rfl
  | cons b bytes ih =>
    rw [List.flatMap_cons, List.append_assoc, octets_escape (escape_escapeByte b), ih]
    rfl

theorem octets_encodeChar (c : Char) (rest : List Char) :
    octets (encodeChar c ++ rest) = String.utf8EncodeChar c ++ octets rest := by
  unfold encodeChar
  split
  next kept =>
    have plain : c ≠ '%' := ne_of_isKept kept (by decide)
    have plus : c ≠ '+' := ne_of_isKept kept (by decide)
    rw [List.singleton_append, octets_cons plain, blanked, if_neg plus]
  next =>
    split
    next blank =>
      subst blank
      exact octets_cons (by decide) rest
    next => exact octets_escapeByte _ rest

theorem octets_encodePiece (s : List Char) : octets (encodePiece s) = encoded s := by
  induction s with
  | nil => rfl
  | cons c s ih =>
    change octets (encodeChar c ++ encodePiece s) = _
    rw [octets_encodeChar, ih]
    rfl

theorem decode?_encodePiece (text : String) : decode? (encodePiece text.toList) = some text := by
  rw [decode?, octets_encodePiece, utf8?_encoded, Option.map_some, String.ofList_toList]

theorem mem_encodePiece {s : List Char} (member : d ∈ encodePiece s) :
    isKept d = true ∨ d = '%' ∨ d = '+' := by
  obtain ⟨c, _, inside⟩ := List.mem_flatMap.1 member
  exact mem_encodeChar inside

theorem mem_encodePair {p : String × String} (member : d ∈ encodePair p) :
    d = '=' ∨ isKept d = true ∨ d = '%' ∨ d = '+' := by
  rcases List.mem_append.1 member with name | behind
  · exact .inr (mem_encodePiece name)
  · exact (List.mem_cons.1 behind).imp_right mem_encodePiece

theorem mem_joinPairs {pairs : List (String × String)} (member : d ∈ joinPairs pairs) :
    d = '&' ∨ d = '=' ∨ isKept d = true ∨ d = '%' ∨ d = '+' := by
  fun_induction joinPairs pairs with
  | case1 => cases member
  | case2 p => exact .inr (mem_encodePair member)
  | case3 p rest _ ih =>
    rcases List.mem_append.1 member with first | behind
    · exact .inr (mem_encodePair first)
    · exact (List.mem_cons.1 behind).elim .inl ih

theorem readPair?_encodePair (p : String × String) : readPair? (encodePair p) = some p := by
  have free : '=' ∉ encodePiece p.1.toList := fun member => absurd (mem_encodePiece member) (by decide)
  rw [readPair?, encodePair, cut_append_cons free, Option.getD_some, decode?_encodePiece, decode?_encodePiece]
  rfl

theorem joinPairs_eq (pairs : List (String × String)) :
    joinPairs pairs = ['&'].intercalate (pairs.map encodePair) := by
  fun_induction joinPairs pairs with
  | case1 => rfl
  | case2 p => exact (List.append_nil _).symm
  | case3 p rest present ih =>
    obtain ⟨q, rest, rfl⟩ := List.exists_cons_of_ne_nil (fun none => present none)
    rw [ih]
    rfl

theorem mapM_readPair?_encodePair (pairs : List (String × String)) :
    (pairs.map encodePair).mapM readPair? = some pairs :=
  mapM_of_forall₂ (List.forall₂_map_left_iff.2 (List.forall₂_same.2 fun p _ => readPair?_encodePair p))

/-- Pairs are read back, whatever characters they hold, and also where they are empty. -/
theorem readQuery?_joinPairs (pairs : List (String × String)) : readQuery? (joinPairs pairs) = some pairs := by
  cases pairs with
  | nil => rfl
  | cons p rest =>
    have free : ∀ piece ∈ (p :: rest).map encodePair, '&' ∉ piece := by
      rintro _ member ampersand
      obtain ⟨q, _, rfl⟩ := List.mem_map.1 member
      exact absurd (mem_encodePair ampersand) (by decide)
    have divided : (joinPairs (p :: rest)).splitOn '&' = (p :: rest).map encodePair := by
      rw [joinPairs_eq]
      exact List.splitOn_intercalate _ free (List.cons_ne_nil _ _)
    -- an empty pair is written as an equals sign, so no stretch is passed over
    have present : ∀ piece ∈ (p :: rest).map encodePair, (!piece.isEmpty) = true := by
      rintro _ member
      obtain ⟨q, _, rfl⟩ := List.mem_map.1 member
      simp [encodePair]
    rw [readQuery?, divided, List.filter_eq_self.2 present, mapM_readPair?_encodePair]

end UrlRouting.Percent
