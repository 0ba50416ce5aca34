/-
FtMmi.Lib.FramePieces — a stream to which frames are appended, each one
as far as the medium took it.

What an append leaves in the stream is a `Piece`: a frame and the prefix
of it that was taken. A reader that finds the frames by their lengths
keeps its place only while the stream is a row of complete frames with at
most one incomplete frame at its end (`FramesThenPart`).
`framesThenPart_of_pieces` derives that from what a writer can see to
itself: that it appends nothing after a frame it has cut
(`NothingAfterCut`).
-/
import Mathlib

namespace FtMmi.Lib

variable {α : Type*}

/-! ## Frames, then at most a part of one -/

/-- Complete frames out of `frames`, in their order, followed by at most
one incomplete frame. -/
def FramesThenPart (frames : List (List α)) (stream : List α) : Prop :=
  ∃ whole part, stream = List.flatten whole ++ part ∧
    ((part = [] ∧ whole.Sublist frames) ∨
      ∃ frame, part <+: frame ∧ (whole ++ [frame]).Sublist frames)

theorem FramesThenPart.nil (frames : List (List α)) : FramesThenPart frames [] :=
  ⟨[], [], rfl, .inl ⟨rfl, List.nil_sublist _⟩⟩

theorem FramesThenPart.skip {frames : List (List α)} {stream : List α}
    (h : FramesThenPart frames stream) (frame : List α) :
    FramesThenPart (frame :: frames) stream := by
  obtain ⟨whole, part, heq, hpart | ⟨last, hlast, hsub⟩⟩ := h
  · exact ⟨whole, part, heq, .inl ⟨hpart.1, hpart.2.cons _⟩⟩
  · exact ⟨whole, part, heq, .inr ⟨last, hlast, hsub.cons _⟩⟩

theorem FramesThenPart.whole {frames : List (List α)} {stream : List α}
    (h : FramesThenPart frames stream) (frame : List α) :
    FramesThenPart (frame :: frames) (frame ++ stream) := by
  obtain ⟨whole, part, heq, hpart | ⟨last, hlast, hsub⟩⟩ := h
  · refine ⟨frame :: whole, part, ?_, .inl ⟨hpart.1, hpart.2.cons_cons _⟩⟩
    rw [heq, List.flatten_cons, List.append_assoc]
  · refine ⟨frame :: whole, part, ?_, .inr ⟨last, hlast, hsub.cons_cons _⟩⟩
    rw [heq, List.flatten_cons, List.append_assoc]

theorem FramesThenPart.part {frame stream : List α} (h : stream <+: frame)
    (frames : List (List α)) : FramesThenPart (frame :: frames) stream :=
  ⟨[], stream, rfl, .inr ⟨frame, h, (List.nil_sublist _).cons_cons _⟩⟩

/-- The first frame is not in the stream, is at its beginning, or is all of
it and cut. -/
theorem framesThenPart_cons_iff (frame : List α) (frames : List (List α)) (stream : List α) :
    FramesThenPart (frame :: frames) stream ↔
      FramesThenPart frames stream ∨
        (frame <+: stream ∧ FramesThenPart frames (stream.drop frame.length)) ∨
        stream <+: frame := by
  constructor
  · rintro ⟨whole, part, heq, ⟨hnil, hsub⟩ | ⟨last, hlast, hsub⟩⟩
    · rcases List.sublist_cons_iff.mp hsub with hskip | ⟨whole', rfl, hsub'⟩
      · exact .inl ⟨whole, part, heq, .inl ⟨hnil, hskip⟩⟩
      · rw [List.flatten_cons, List.append_assoc] at heq
        rw [heq, List.drop_left]
        exact .inr (.inl ⟨List.prefix_append _ _, whole', part, rfl, .inl ⟨hnil, hsub'⟩⟩)
    · rcases List.sublist_cons_iff.mp hsub with hskip | ⟨rest, hrest, hsub'⟩
      · exact .inl ⟨whole, part, heq, .inr ⟨last, hlast, hskip⟩⟩
      · cases whole with
        | nil =>
          injection hrest with hlastEq
          rw [heq, ← hlastEq]
          exact .inr (.inr hlast)
        | cons first whole' =>
          injection hrest with hfirst hrest
          rw [hfirst, List.flatten_cons, List.append_assoc] at heq
          rw [heq, List.drop_left]
          refine .inr (.inl ⟨List.prefix_append _ _, whole', part, rfl, .inr ⟨last, hlast, ?_⟩⟩)
          rw [← hrest] at hsub'
          exact hsub'
  · rintro (hskip | ⟨⟨rest, rfl⟩, hrest⟩ | hpart)
    · exact hskip.skip frame
    · rw [List.drop_left] at hrest
      exact hrest.whole frame
    · exact .part hpart frames

theorem framesThenPart_nil_iff (stream : List α) :
    FramesThenPart ([] : List (List α)) stream ↔ stream = [] := by
  constructor
  · rintro ⟨whole, part, heq, ⟨hnil, hsub⟩ | ⟨last, _, hsub⟩⟩
    · rw [heq, hnil, List.sublist_nil.mp hsub]
      rfl
    · have hempty := List.sublist_nil.mp hsub
      simp at hempty
  · rintro rfl
    exact .nil []

instance decidableFramesThenPart [DecidableEq α] :
    (frames : List (List α)) → (stream : List α) → Decidable (FramesThenPart frames stream)
  | [], stream => decidable_of_iff _ (framesThenPart_nil_iff stream).symm
  | frame :: frames, stream =>
      have := decidableFramesThenPart frames stream
      have := decidableFramesThenPart frames (stream.drop frame.length)
      decidable_of_iff _ (framesThenPart_cons_iff frame frames stream).symm

/-! ## Pieces -/

/-- A frame and what was taken of it. -/
structure Piece (α : Type*) where
  frame : List α
  bytes : List α
  isPrefix : bytes <+: frame

/-- A part of the frame was taken, and a part not. -/
def Piece.Cut (p : Piece α) : Prop := p.bytes ≠ [] ∧ p.bytes ≠ p.frame

/-- The stream the pieces make up. -/
def streamOf (pieces : List (Piece α)) : List α := pieces.flatMap Piece.bytes

/-- Once a frame is cut, nothing is appended any more. -/
def NothingAfterCut (pieces : List (Piece α)) : Prop :=
  pieces.Pairwise fun earlier later => earlier.Cut → later.bytes = []

theorem framesThenPart_of_pieces {pieces : List (Piece α)} (h : NothingAfterCut pieces) :
    FramesThenPart (pieces.map Piece.frame) (streamOf pieces) := by
  induction pieces with
  | nil => exact .nil []
  | cons p pieces ih =>
    obtain ⟨hafter, hrest⟩ := List.pairwise_cons.mp h
    have hstream : streamOf (p :: pieces) = p.bytes ++ streamOf pieces := rfl
    rw [hstream, List.map_cons]
    by_cases hnil : p.bytes = []
    · rw [hnil]
      exact (ih hrest).skip p.frame
    · by_cases hwhole : p.bytes = p.frame
      · rw [hwhole]
        exact (ih hrest).whole p.frame
      · -- The cut frame is the part at the end.
        have hrestNil : streamOf pieces = [] :=
          List.flatMap_eq_nil_iff.mpr fun q hq => hafter q hq ⟨hnil, hwhole⟩
        rw [hrestNil, List.append_nil]
        exact .part p.isPrefix _

end FtMmi.Lib
