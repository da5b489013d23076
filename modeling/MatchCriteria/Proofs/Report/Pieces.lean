import MatchCriteria.Proofs.Report.Rows

/-!
# The pieces of a report

A report is written piece by piece.  With colours a marker or a placeholder stands between the
sequences that switch its style on and the one that switches it off again, and no other piece does:
wherever an observation or a line feed is written, no style is on.
-/

namespace MatchCriteria.Report

/-- What is written of a report at a time. -/
inductive Piece where
  /-- The escape sequence of a code. -/
  | sequence (code : Nat)
  /-- A marker, the blank behind it, or a placeholder. -/
  | label (cs : List Char)
  /-- An observation that is not empty. -/
  | observation (text : String)
  /-- The end of a line. -/
  | lineFeed
  deriving DecidableEq, Repr

namespace Piece

/-- The characters that a piece is written with. -/
def characters : Piece → List Char
  | sequence code => Text.escapeSequence code
  | label cs => cs
  | observation text => text.toList
  | lineFeed => ['\n']

/-- The code of a piece that is a sequence. -/
def code? : Piece → Option Nat
  | sequence code => some code
  | _ => none

/-- Whether a piece has to be written without a style: an observation, or the end of a line. -/
def isBare : Piece → Bool
  | observation _ => true
  | lineFeed => true
  | _ => false

end Piece

/-- The pieces of a part in a style, or without one where there is no colour. -/
def styledPieces (colour : Bool) (s : Text.Style) (part : List Char) : List Piece :=
  if colour then s.map .sequence ++ [.label part, .sequence 0] else [.label part]

/-- The pieces of the marker of an outcome. -/
def markerPieces (colour matched : Bool) : List Piece :=
  (if matched then styledPieces colour matchedStyle "MATCH".toList
    else styledPieces colour missedStyle "MISS ".toList) ++ [.label [' ']]

/-- The pieces of an observation as it is shown. -/
def shownPieces (colour : Bool) (observation : String) : List Piece :=
  if observation.toList.isEmpty then styledPieces colour absentStyle placeholder
  else [.observation observation]

/-- The pieces of the line of an outcome. -/
def linePieces (colour all : Bool) (o : Outcome) : List Piece :=
  if all then markerPieces colour o.matched ++ shownPieces colour o.observation ++ [.lineFeed]
  else if o.matched then shownPieces colour o.observation ++ [.lineFeed]
  else []

/-- The pieces of a report. -/
def pieces (colour all : Bool) (outcomes : List Outcome) : List Piece :=
  outcomes.flatMap (linePieces colour all)

/-! ### Pieces and characters -/

theorem characters_styledPieces (colour : Bool) (s : Text.Style) (part : List Char) :
  (styledPieces colour s part).flatMap Piece.characters = styled colour s part
  := by
  unfold styledPieces styled
  split
  · rw [List.flatMap_append, List.flatMap_map, Text.paint, List.append_assoc]
    rfl
  · apply List.flatMap_singleton

theorem characters_markerPieces (colour matched : Bool) :
  (markerPieces colour matched).flatMap Piece.characters = marker colour matched
  := by
  rw [markerPieces, List.flatMap_append, marker]
  split
  · rw [characters_styledPieces]
    rfl
  · rw [characters_styledPieces]
    rfl

theorem characters_shownPieces (colour : Bool) (observation : String) :
  (shownPieces colour observation).flatMap Piece.characters = shown colour observation
  := by
  unfold shownPieces shown
  split
  · apply characters_styledPieces
  · apply List.flatMap_singleton

theorem characters_linePieces (colour all : Bool) (o : Outcome) :
  (linePieces colour all o).flatMap Piece.characters = line colour all o
  := by
  unfold linePieces line
  split
  · rw [List.flatMap_append, List.flatMap_append, characters_markerPieces, characters_shownPieces]
    rfl
  · split
    · rw [List.flatMap_append, characters_shownPieces]
      rfl
    · rfl

/-- A report is its pieces one after the other. -/
theorem text_eq_pieces (colour all : Bool) (outcomes : List Outcome) :
  text colour all outcomes
    = String.ofList ((pieces colour all outcomes).flatMap Piece.characters)
  := by
  rw [text, pieces, List.flatMap_assoc]
  congr 2
  funext o
  rw [characters_linePieces]

/-! ### Bare pieces -/

/-- The outcomes that have a line in a report. -/
def reported (all : Bool) (outcomes : List Outcome) : List Outcome :=
  if all then outcomes else outcomes.filter Outcome.matched

/-- What of the line of an outcome has no style: its observation, if it has one, and its end. -/
def bareLine (o : Outcome) : List Piece :=
  if o.observation = "" then [.lineFeed] else [.observation o.observation, .lineFeed]

theorem filter_isBare_styledPieces (colour : Bool) (s : Text.Style) (part : List Char) :
  (styledPieces colour s part).filter Piece.isBare = []
  := by
  rw [List.filter_eq_nil_iff]
  intro p hp
  rw [styledPieces] at hp
  split at hp
  · rw [List.mem_append, List.mem_map, List.mem_pair] at hp
    rcases hp with ⟨code, -, rfl⟩ | rfl | rfl
    · apply Bool.false_ne_true
    · apply Bool.false_ne_true
    · apply Bool.false_ne_true
  · rw [List.mem_singleton] at hp
    subst hp
    apply Bool.false_ne_true

theorem filter_isBare_markerPieces (colour matched : Bool) :
  (markerPieces colour matched).filter Piece.isBare = []
  := by
  rw [markerPieces, List.filter_append]
  split
  · rw [filter_isBare_styledPieces]
    rfl
  · rw [filter_isBare_styledPieces]
    rfl

theorem filter_isBare_shownPieces (colour : Bool) (o : Outcome) :
  (shownPieces colour o.observation ++ [Piece.lineFeed]).filter Piece.isBare = bareLine o
  := by
  rw [List.filter_append, shownPieces, bareLine]
  simp only [List.isEmpty_iff, String.toList_eq_nil_iff]
  split
  · rw [filter_isBare_styledPieces]
    rfl
  · rfl

theorem reported_cons (all : Bool) (o : Outcome) (outcomes : List Outcome) :
  reported all (o :: outcomes) = reported all [o] ++ reported all outcomes
  := by
  unfold reported
  split
  · rfl
  · apply List.filter_append [o] outcomes

theorem filter_isBare_linePieces (colour all : Bool) (o : Outcome) :
  (linePieces colour all o).filter Piece.isBare = (reported all [o]).flatMap bareLine
  := by
  unfold linePieces reported
  split
  · rw [List.append_assoc, List.filter_append, filter_isBare_markerPieces,
      filter_isBare_shownPieces, List.flatMap_singleton]
    rfl
  · split
    · rename_i hmatched
      rw [filter_isBare_shownPieces, List.filter_cons_of_pos hmatched, List.filter_nil,
        List.flatMap_singleton]
    · rename_i hmatched
      rw [List.filter_cons_of_neg hmatched]
      rfl

/-- Whatever the colour, the observations that are not empty are written as they are, in order, and
each line is ended. -/
theorem filter_isBare_pieces (colour all : Bool) (outcomes : List Outcome) :
  (pieces colour all outcomes).filter Piece.isBare = (reported all outcomes).flatMap bareLine
  := by
  rw [pieces, List.filter_flatMap]
  induction outcomes with
  | nil =>
    unfold reported
    split
    · rfl
    · rfl
  | cons o outcomes ih =>
    rw [List.flatMap_cons, ih, filter_isBare_linePieces, reported_cons all o outcomes,
      List.flatMap_append]

/-! ### Styles -/

/-- No style is on behind some pieces: the last sequence among them, if there is one, switches
styles off. -/
def Plain (ps : List Piece) : Prop := ∀ code ∈ (ps.filterMap Piece.code?).getLast?, code = 0

/-- Some pieces, before which no style is on, leave none on, and none is on before those of them
that have to be written without one. -/
structure Bracketed (ps : List Piece) : Prop where
  plain : Plain ps
  bare (before : List Piece) (p : Piece) (after : List Piece) :
    ps = before ++ p :: after → p.isBare = true → Plain before

theorem Plain.append {ps qs : List Piece} (hp : Plain ps) (hq : Plain qs) :
  Plain (ps ++ qs)
  := by
  intro code hcode
  rw [List.filterMap_append, List.getLast?_append, Option.mem_def, Option.or_eq_some_iff] at hcode
  rcases hcode with hcode | ⟨-, hcode⟩
  · apply hq code hcode
  · apply hp code hcode

theorem bracketed_nil :
  Bracketed []
  := by
  constructor
  · nofun
  · intro before p after h
    cases List.append_ne_nil_of_right_ne_nil before (List.cons_ne_nil p after) h.symm

/-- A piece that is no sequence switches no style on. -/
theorem bracketed_singleton {p : Piece} (h : p.code? = none) :
  Bracketed [p]
  := by
  constructor
  · intro code hcode
    rw [List.filterMap_cons_none h] at hcode
    cases hcode
  · intro before q after heq _
    obtain ⟨rfl, -⟩ | ⟨_, -, hnil⟩ := List.cons_eq_append_iff.mp heq
    · nofun
    · cases List.append_ne_nil_of_right_ne_nil _ (List.cons_ne_nil q after) hnil.symm

/-- One behind the other, pieces that switch off what they switch on do so together. -/
theorem Bracketed.append {ps qs : List Piece} (hp : Bracketed ps) (hq : Bracketed qs) :
  Bracketed (ps ++ qs)
  := by
  constructor
  · apply hp.plain.append hq.plain
  · intro before p after h hbare
    rcases List.append_eq_append_iff.mp h with ⟨between, rfl, hqs⟩ | ⟨between, hps, hafter⟩
    · apply hp.plain.append
      apply hq.bare between p after hqs hbare
    · cases between with
      | nil =>
        rw [List.append_nil] at hps
        subst hps
        apply hp.plain
      | cons q between =>
        rw [List.cons_append, List.cons.injEq] at hafter
        obtain ⟨rfl, -⟩ := hafter
        apply hp.bare before p between hps hbare

theorem bracketed_flatMap {α : Type} {f : α → List Piece} (h : ∀ x, Bracketed (f x))
    (xs : List α) :
  Bracketed (xs.flatMap f)
  := by
  induction xs with
  | nil => apply bracketed_nil
  | cons x xs ih =>
    rw [List.flatMap_cons]
    apply (h x).append ih

/-- A styled part is followed by the sequence that switches its style off, and none of it has to be
written without a style. -/
theorem bracketed_styledPieces (colour : Bool) (s : Text.Style) (part : List Char) :
  Bracketed (styledPieces colour s part)
  := by
  constructor
  · unfold styledPieces
    split
    · intro code hcode
      rw [List.filterMap_append, List.getLast?_append] at hcode
      cases hcode
      rfl
    · apply (bracketed_singleton rfl).plain
  · intro before p after h hbare
    have hmem : p ∈ (styledPieces colour s part).filter Piece.isBare := by
      rw [List.mem_filter, h]
      exact ⟨List.mem_append_cons_self, hbare⟩
    rw [filter_isBare_styledPieces] at hmem
    cases hmem

theorem bracketed_markerPieces (colour matched : Bool) :
  Bracketed (markerPieces colour matched)
  := by
  rw [markerPieces]
  apply Bracketed.append
  · split
    · apply bracketed_styledPieces
    · apply bracketed_styledPieces
  · apply bracketed_singleton rfl

theorem bracketed_shownPieces (colour : Bool) (observation : String) :
  Bracketed (shownPieces colour observation)
  := by
  unfold shownPieces
  split
  · apply bracketed_styledPieces
  · apply bracketed_singleton rfl

/-- A line leaves no style on for the next one. -/
theorem bracketed_linePieces (colour all : Bool) (o : Outcome) :
  Bracketed (linePieces colour all o)
  := by
  have hend : Bracketed [.lineFeed] := bracketed_singleton rfl
  have hshown := bracketed_shownPieces colour o.observation
  unfold linePieces
  split
  · apply ((bracketed_markerPieces colour o.matched).append hshown).append hend
  · split
    · apply hshown.append hend
    · apply bracketed_nil

theorem bracketed_pieces (colour all : Bool) (outcomes : List Outcome) :
  Bracketed (pieces colour all outcomes)
  := bracketed_flatMap (bracketed_linePieces colour all) outcomes

/-! ### Deleting sequences -/

/-- A report without colours has no escape character unless an observation has one. -/
theorem escape_notMem_text {all : Bool} {outcomes : List Outcome}
    (h : ∀ o ∈ outcomes, '\x1b' ∉ o.observation.toList) :
  '\x1b' ∉ (text false all outcomes).toList
  := by
  intro hescape
  rw [toList_text, List.flatMap_map, List.mem_flatMap] at hescape
  obtain ⟨row, hrow, hescape⟩ := hescape
  rcases List.mem_append.mp hescape with hescape | hfeed
  · rcases mem_of_mem_rows hrow hescape with ⟨o, ho, hescape⟩ | hown
    · apply h o ho hescape
    · absurd hown
      decide
  · absurd hfeed
    decide

/-- Where no observation has an escape character, the report without colours is what is left of the
one with them. -/
theorem delete_text_eq_self {all : Bool} {outcomes : List Outcome}
    (h : ∀ o ∈ outcomes, '\x1b' ∉ o.observation.toList) :
  Text.delete sequences (text false all outcomes).toList = (text false all outcomes).toList
  := by
  have hsequences : ∀ part ∈ sequences, '\x1b' ∈ part := by
    decide
  apply Text.delete_eq_self
  intro part hpart hoccurs
  apply escape_notMem_text h (hoccurs.subset (hsequences part hpart))

/-- Colours are only added to a report, and are switched off again.  Without the sequences of
colours a report with them is what one without them is, and it is that one itself where no
observation has an escape character.  A report is its pieces, among which are the observations that
are not empty and the ends of lines, as they are without colours; before each of these, and behind
the last piece, the last sequence that was written is the one that switches styles off. -/
theorem text_in_colour (all : Bool) (outcomes : List Outcome) :
  Text.delete sequences (text true all outcomes).toList
    = Text.delete sequences (text false all outcomes).toList ∧
  ((∀ o ∈ outcomes, '\x1b' ∉ o.observation.toList) →
    Text.delete sequences (text true all outcomes).toList = (text false all outcomes).toList) ∧
  text true all outcomes
    = String.ofList ((pieces true all outcomes).flatMap Piece.characters) ∧
  (pieces true all outcomes).filter Piece.isBare = (reported all outcomes).flatMap bareLine ∧
  (∀ before p after, pieces true all outcomes = before ++ p :: after → p.isBare = true →
    ∀ code ∈ (before.filterMap Piece.code?).getLast?, code = 0) ∧
  ∀ code ∈ ((pieces true all outcomes).filterMap Piece.code?).getLast?, code = 0
  := by
  have hbracketed := bracketed_pieces true all outcomes
  refine ⟨delete_text true all outcomes, ?_, text_eq_pieces true all outcomes,
    filter_isBare_pieces true all outcomes, hbracketed.bare, hbracketed.plain⟩
  intro h
  rw [delete_text, delete_text_eq_self h]

/-- A match and an empty observation, between whose sequences one more is put together only once
they are deleted; and a match without sequences of its own. -/
theorem text_in_colour_of_escape :
  Text.delete sequences (text true true [⟨"\x1b[3\x1b[0m1m", true⟩, ⟨"", false⟩]).toList
      = Text.delete sequences
        (text false true [⟨"\x1b[3\x1b[0m1m", true⟩, ⟨"", false⟩]).toList ∧
    Text.delete sequences (text true true [⟨"a", true⟩, ⟨"", false⟩]).toList
      = (text false true [⟨"a", true⟩, ⟨"", false⟩]).toList ∧
    ∀ code ∈ ((markerPieces true true).filterMap Piece.code?).getLast?, code = 0
  := by
  obtain ⟨hescape, -⟩ := text_in_colour true [⟨"\x1b[3\x1b[0m1m", true⟩, ⟨"", false⟩]
  obtain ⟨-, hdelete, -, -, hbare, -⟩ := text_in_colour true [⟨"a", true⟩, ⟨"", false⟩]
  refine ⟨hescape, hdelete (by decide), ?_⟩
  apply hbare (markerPieces true true) (.observation "a")
    (.lineFeed :: linePieces true true ⟨"", false⟩) rfl rfl

end MatchCriteria.Report
