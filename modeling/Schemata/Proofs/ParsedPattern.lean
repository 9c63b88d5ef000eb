import Schemata.Proofs.Matching
import Schemata.Proofs.Traversal
import Schemata.Regex.Pattern

/-!
What patterns denote. Reading keeps the expressions ordered, since counts the wrong way round are
refused. Main statement: a pattern is found in a text exactly where a stretch of the text is one
that its expression means.
-/

namespace Schemata.Regex

theorem Expr.Ordered.seqs {es : List (Expr α)} (ordered : ∀ e ∈ es, e.Ordered) :
    (Expr.seqs es).Ordered := by
  fun_induction Expr.seqs es with
  | case1 => trivial
  | case2 e => exact ordered e List.mem_cons_self
  | case3 e rest _ ih =>
    obtain ⟨first, others⟩ := List.forall_mem_cons.mp ordered
    exact ⟨first, ih others⟩

theorem Expr.Ordered.alts {first : Expr α} {rest : List (Expr α)} (head : first.Ordered)
    (others : ∀ e ∈ rest, e.Ordered) : (Expr.alts first rest).Ordered := by
  fun_induction Expr.alts first rest with
  | case1 => exact head
  | case2 first e rest ih =>
    obtain ⟨next, others⟩ := List.forall_mem_cons.mp others
    exact ⟨head, ih next others⟩

namespace Pattern

/-- All pieces are ordered. -/
def OrderedPieces (pieces : List Piece) : Prop := ∀ piece ∈ pieces, piece.expr.Ordered

theorem OrderedPieces.cons {piece : Piece} {pieces : List Piece} (latest : piece.expr.Ordered)
    (ordered : OrderedPieces pieces) : OrderedPieces (piece :: pieces) :=
  List.forall_mem_cons.mpr ⟨latest, ordered⟩

theorem OrderedPieces.sequence {pieces : List Piece} (ordered : OrderedPieces pieces) :
    (Pattern.sequence pieces).expr.Ordered := by
  unfold Pattern.sequence
  split
  · trivial
  · next piece => exact ordered piece List.mem_cons_self
  · refine Expr.Ordered.seqs fun e member => ?_
    obtain ⟨piece, found, rfl⟩ := List.mem_map.mp member
    exact ordered piece (List.mem_reverse.mp found)

theorem OrderedPieces.choice {branches : List Piece} {last : Piece}
    (ordered : OrderedPieces branches) (behind : last.expr.Ordered) :
    (Pattern.choice branches last).expr.Ordered := by
  unfold Pattern.choice
  have reversed : OrderedPieces branches.reverse :=
    fun piece member => ordered piece (List.mem_reverse.mp member)
  split
  · exact behind
  · next first rest same =>
    rw [same] at reversed
    obtain ⟨head, others⟩ := List.forall_mem_cons.mp reversed
    refine Expr.Ordered.alts head fun e member => ?_
    obtain ⟨piece, found, rfl⟩ := List.mem_map.mp member
    rcases List.mem_append.mp found with among | final
    · exact others piece among
    · rwa [List.mem_singleton.mp final]

structure Level.Ordered (level : Level) : Prop where
  pieces : OrderedPieces level.pieces
  branches : OrderedPieces level.branches

structure Progress.Ordered (progress : Progress) : Prop where
  level : progress.level.Ordered
  outer : ∀ level ∈ progress.outer, level.Ordered

theorem Level.Ordered.close {level : Level} (ordered : level.Ordered) :
    level.close.expr.Ordered :=
  ordered.branches.choice ordered.pieces.sequence

theorem Level.Ordered.push {level : Level} {piece : Piece} (ordered : level.Ordered)
    (next : piece.expr.Ordered) : (level.push piece).Ordered :=
  ⟨ordered.pieces.cons next, ordered.branches⟩

namespace Progress

variable {progress next : Progress} {text rest : List Char}

theorem Ordered.push {piece : Piece} (ordered : progress.Ordered) (last : piece.expr.Ordered) :
    (progress.push piece).Ordered :=
  ⟨ordered.level.push last, ordered.outer⟩

theorem Ordered.repeat {least : Nat} {most : Option Nat} (ordered : progress.Ordered)
    (bounds : ∀ bound ∈ most, least ≤ bound)
    (read : progress.repeat least most text = .ok (next, rest)) : next.Ordered := by
  unfold Progress.repeat at read
  split at read
  · next piece before same =>
    split at read
    · cases read
      have pieces := ordered.level.pieces
      rw [same] at pieces
      obtain ⟨latest, others⟩ := List.forall_mem_cons.mp pieces
      exact ⟨⟨.cons ⟨bounds, latest⟩ others, ordered.level.branches⟩, ordered.outer⟩
    · cases read
  · cases read

/-- Counts are not the wrong way round. -/
theorem counts_le {flags : Flags} {least : Nat} {most : Option Nat}
    (read : counts flags text = .ok (least, most, rest)) : ∀ bound ∈ most, least ≤ bound := by
  unfold counts at read
  obtain ⟨⟨found, behind⟩, _, read⟩ := bind_eq_ok_iff.mp read
  cases found with
  | none => cases read
  | some first =>
    dsimp only at read
    split at read
    · cases read
      simp
    · split at read
      · cases read
        simp
      · obtain ⟨⟨found, behind⟩, _, read⟩ := bind_eq_ok_iff.mp read
        cases found with
        | none => cases read
        | some last =>
          dsimp only at read
          split at read
          · split at read
            · cases read
            · next upward =>
              cases read
              rintro bound ⟨⟩
              omega
          · cases read
    · cases read

theorem Ordered.closeGroup (ordered : progress.Ordered) (closed : progress.closeGroup = .ok next) :
    next.Ordered := by
  unfold Progress.closeGroup at closed
  split at closed
  · cases closed
  · next around outer same =>
    cases closed
    have levels := ordered.outer
    rw [same] at levels
    obtain ⟨surrounding, others⟩ := List.forall_mem_cons.mp levels
    exact ⟨surrounding.push ordered.level.close, others⟩

theorem Ordered.openGroup (ordered : progress.Ordered)
    (opened : progress.openGroup text = .ok (next, rest)) : next.Ordered := by
  unfold Progress.openGroup at opened
  obtain ⟨⟨opening, behind⟩, _, opened⟩ := bind_eq_ok_iff.mp opened
  cases opening with
  | group flags remembered name =>
    dsimp only at opened
    split at opened
    · cases opened
    · cases opened
      exact ⟨⟨nofun, nofun⟩, List.forall_mem_cons.mpr ⟨ordered.level, ordered.outer⟩⟩
  | directive flags =>
    cases opened
    have marked : (progress.push { expr := .empty, repeatable := false }).Ordered :=
      ordered.push trivial
    exact ⟨⟨marked.level.pieces, marked.level.branches⟩, marked.outer⟩

theorem Ordered.step {c : Char} (ordered : progress.Ordered)
    (read : progress.step c text = .ok (next, rest)) : next.Ordered := by
  -- one case for each character that is looked for; only counts can be the wrong way round
  unfold Progress.step at read
  dsimp only at read
  split at read
  · exact ordered.openGroup read
  · obtain ⟨closed, done, same⟩ := bind_eq_ok_iff.mp read
    cases same
    exact ordered.closeGroup done
  · cases read
    exact ⟨⟨nofun, ordered.level.branches.cons ordered.level.pieces.sequence⟩, ordered.outer⟩
  · obtain ⟨⟨found, behind⟩, _, same⟩ := bind_eq_ok_iff.mp read
    cases same
    exact ordered.push trivial
  · exact ordered.repeat (by simp) read
  · exact ordered.repeat (by simp) read
  · exact ordered.repeat (by simp) read
  · obtain ⟨⟨least, most, behind⟩, bounds, read⟩ := bind_eq_ok_iff.mp read
    exact ordered.repeat (counts_le bounds) read
  · obtain ⟨⟨escape, behind⟩, _, read⟩ := bind_eq_ok_iff.mp read
    cases escape with
    | literal | members | anchor =>
      cases read
      exact ordered.push trivial
  · obtain ⟨set, _, same⟩ := bind_eq_ok_iff.mp read
    cases same
    exact ordered.push trivial
  · cases read
    exact ordered.push trivial
  · cases read
    exact ordered.push trivial
  · cases read
    exact ordered.push trivial

end Progress

theorem ordered_of_readFrom {budget : Nat} {progress : Progress} {text : List Char} {piece : Piece}
    (ordered : progress.Ordered) (read : readFrom budget progress text = .ok piece) :
    piece.expr.Ordered := by
  have finished (progress : Progress) (ordered : progress.Ordered)
      (read : readFrom.finish progress = .ok piece) : piece.expr.Ordered := by
    unfold readFrom.finish at read
    split at read
    · cases read
      exact ordered.level.close
    · cases read
  induction budget generalizing progress text with
  | zero => exact finished progress ordered read
  | succ budget ih =>
    unfold readFrom at read
    split at read
    · exact finished progress ordered read
    · obtain ⟨⟨further, rest⟩, stepped, read⟩ := bind_eq_ok_iff.mp read
      exact ih (ordered.step stepped) read

theorem ordered_of_parse {text : List Char} {e : Expr Atom} (parsed : parse text = .ok e) :
    e.Ordered := by
  unfold parse at parsed
  obtain ⟨piece, read, parsed⟩ := bind_eq_ok_iff.mp parsed
  have start : ({} : Progress).Ordered := ⟨⟨nofun, nofun⟩, nofun⟩
  have whole := ordered_of_readFrom start read
  dsimp only at parsed
  split at parsed
  · cases parsed
  · split at parsed
    · cases parsed
    · cases parsed
      exact whole

/-- A pattern is found in a text where a stretch of the text is one that its expression means. -/
theorem isMatch_iff (pattern : Pattern) (text : String) :
    pattern.isMatch text = true ↔
      ∃ i j, i ≤ text.toList.length ∧ pattern.expr.Spans text.toList i j :=
  Expr.isMatch_iff (ordered_of_parse pattern.denotes)

end Pattern

end Schemata.Regex
