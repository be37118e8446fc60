import FrameScript.ActionLine.Lenient
import FrameScript.Proofs.Text.Trimming

/-!
# Readings turn by turn

A lenient reading can be carried out with a cursor that goes over the whole line.  Each turn looks
at the character under the cursor: blanks are passed over, and a character that is handed over
stays under the cursor, so a turn need not come any nearer to the end of the line.  But every turn
raises the rank of the cursor, which is twice its place and one more where a tag is read.  So there
are at most two turns for each character, the second one in the mode of tags, and what they come to
is one pass over the characters that are not blank.
-/

namespace FrameScript.Lenient

/-- The place of the next character to look at, and the state in front of it. -/
structure Cursor where
  index : Nat := 0
  scan : Scan := {}
  deriving DecidableEq, Repr

namespace Cursor

/-- What becomes of a cursor that looks at a character. -/
def look (cursor : Cursor) (char : Char) : Except Refusal Cursor :=
  if Text.isBlank char then .ok { cursor with index := cursor.index + 1 }
  else
    (dispatch cursor.scan char).map fun
      | .taken scan => ⟨cursor.index + 1, scan⟩
      | .handedOver scan => ⟨cursor.index, scan⟩

/-- One turn.  There is none behind the last character. -/
def turn? (text : Text) (cursor : Cursor) : Option (Except Refusal Cursor) :=
  text[cursor.index]?.map cursor.look

end Cursor

/-- A reading that comes to an end: the cursors of its turns, one after the other, and the state or
the refusal in which it ends.  A reading that goes on forever has no execution. -/
inductive Execution (text : Text) : Cursor → List Cursor → Except Refusal Scan → Prop where
  | ended {cursor : Cursor} (behind : cursor.turn? text = none) :
      Execution text cursor [] (.ok cursor.scan)
  | refused {cursor : Cursor} {refusal : Refusal}
      (turned : cursor.turn? text = some (.error refusal)) :
      Execution text cursor [cursor] (.error refusal)
  | next {cursor after : Cursor} {turns : List Cursor} {result : Except Refusal Scan}
      (turned : cursor.turn? text = some (.ok after)) (rest : Execution text after turns result) :
      Execution text cursor (cursor :: turns) result

variable {text : Text} {char : Char}

/-- What is handed over is left to the mode of tags, which hands nothing over itself. -/
theorem modes_of_handedOver {scan next : Scan}
    (handed : dispatch scan char = .ok (.handedOver next)) :
    scan.mode ≠ .tag ∧ next.mode = .tag := by
  obtain ⟨mode, count, line⟩ := scan
  unfold dispatch at handed
  cases mode with
  | frames =>
      dsimp only at handed
      split at handed
      · cases handed
      split at handed
      · cases handed
      split at handed
      · cases handed
      split at handed
      · cases handed
      · cases handed
        exact ⟨by simp, rfl⟩
  | tag => cases handed
  | keys =>
      dsimp only at handed
      split at handed <;> cases handed
  | only _ | angle | magnitude =>
      dsimp only at handed
      split at handed
      · cases handed
      split at handed
      · cases handed
      · cases handed
        exact ⟨by simp, rfl⟩

/-- What a turn can do: it passes over a blank, it takes the character, or it stays at the character
in the mode of tags, where taking it completes the step. -/
inductive Moves (char : Char) : Cursor → Cursor → Prop where
  | passed (index : Nat) (scan : Scan) (blank : Text.isBlank char = true) :
      Moves char ⟨index, scan⟩ ⟨index + 1, scan⟩
  | took (index : Nat) {scan next : Scan} (visible : Text.isBlank char = false)
      (stepped : step scan char = .ok next) : Moves char ⟨index, scan⟩ ⟨index + 1, next⟩
  | stayed (index : Nat) {scan next : Scan} (visible : Text.isBlank char = false)
      (before : scan.mode ≠ .tag) (after : next.mode = .tag)
      (stepped : step scan char = .ok (takeTag next char)) :
      Moves char ⟨index, scan⟩ ⟨index, next⟩

theorem moves_of_look {cursor next : Cursor} (looked : cursor.look char = .ok next) :
    Moves char cursor next := by
  obtain ⟨index, scan⟩ := cursor
  rw [Cursor.look] at looked
  split at looked
  · rename_i blank
    cases looked
    exact .passed index scan blank
  · rename_i visible
    rw [Bool.not_eq_true] at visible
    cases dispatched : dispatch scan char with
    | error refusal =>
        simp only [dispatched] at looked
        cases looked
    | ok result =>
        simp only [dispatched] at looked
        cases result with
        | taken state =>
            cases looked
            exact .took index visible (by rw [step, dispatched]; rfl)
        | handedOver state =>
            cases looked
            obtain ⟨before, after⟩ := modes_of_handedOver dispatched
            exact .stayed index visible before after (by rw [step, dispatched]; rfl)

theorem refused_of_look {cursor : Cursor} {refusal : Refusal}
    (looked : cursor.look char = .error refusal) :
    Text.isBlank char = false ∧ step cursor.scan char = .error refusal := by
  rw [Cursor.look] at looked
  split at looked
  · cases looked
  · rename_i visible
    refine ⟨by simpa using visible, ?_⟩
    cases dispatched : dispatch cursor.scan char with
    | error other =>
        rw [dispatched] at looked
        cases looked
        rw [step, dispatched]
        rfl
    | ok result =>
        rw [dispatched] at looked
        cases result <;> cases looked

/-- In the mode of tags every character is taken. -/
theorem look_of_tag {cursor : Cursor} (tagged : cursor.scan.mode = .tag)
    (visible : Text.isBlank char = false) :
    cursor.look char = .ok ⟨cursor.index + 1, takeTag cursor.scan char⟩ := by
  rw [Cursor.look, if_neg (by simp [visible]), dispatch, tagged]
  rfl

theorem step_of_tag {scan : Scan} (tagged : scan.mode = .tag) :
    step scan char = .ok (takeTag scan char) := by
  rw [step, dispatch, tagged]
  rfl

theorem turn?_eq_some {cursor : Cursor} {outcome : Except Refusal Cursor}
    (turned : cursor.turn? text = some outcome) :
    ∃ char, text[cursor.index]? = some char ∧ cursor.look char = outcome :=
  Option.map_eq_some_iff.1 turned

/-- The turn behind one that stays at its character takes that character for a tag, and the two of
them make one step. -/
theorem turn?_of_stayed {cursor next : Cursor} (turned : cursor.turn? text = some (.ok next))
    (stays : next.index = cursor.index) :
    next.scan.mode = .tag ∧
      ∃ char, text[cursor.index]? = some char ∧
        next.turn? text = some (.ok ⟨cursor.index + 1, takeTag next.scan char⟩) ∧
        step cursor.scan char = .ok (takeTag next.scan char) := by
  obtain ⟨char, here, looked⟩ := turn?_eq_some turned
  cases moves_of_look looked with
  | passed => simp at stays
  | took => simp at stays
  | @stayed index scan next visible before after stepped =>
      refine ⟨after, char, here, ?_, stepped⟩
      exact Option.map_eq_some_iff.2 ⟨char, here, look_of_tag after visible⟩

/-- Every turn raises the rank. -/
def Cursor.rank (cursor : Cursor) : Nat :=
  2 * cursor.index + if cursor.scan.mode = .tag then 1 else 0

theorem Cursor.rank_bounds (cursor : Cursor) :
    2 * cursor.index ≤ cursor.rank ∧ cursor.rank ≤ 2 * cursor.index + 1 := by
  rw [rank]
  split <;> omega

theorem Cursor.mode_of_rank {cursor : Cursor} (above : 2 * cursor.index < cursor.rank) :
    cursor.scan.mode = .tag := by
  rw [rank] at above
  split at above
  · assumption
  · omega

theorem Moves.rank_lt {cursor next : Cursor} (moves : Moves char cursor next) :
    cursor.rank < next.rank := by
  cases moves with
  | passed index scan => simp only [Cursor.rank]; omega
  | @took index scan next =>
      have before := (Cursor.mk index scan).rank_bounds.2
      have after := (Cursor.mk (index + 1) next).rank_bounds.1
      dsimp only at before after
      omega
  | stayed index visible before after => simp [Cursor.rank, before, after]

/-- There is a turn only in front of the end of the text. -/
theorem rank_lt_of_turn {cursor : Cursor} {outcome : Except Refusal Cursor}
    (turned : cursor.turn? text = some outcome) : cursor.rank < 2 * text.length := by
  obtain ⟨char, here, _⟩ := turn?_eq_some turned
  have inside := (List.getElem?_eq_some_iff.1 here).1
  have bound := cursor.rank_bounds.2
  omega

theorem rank_lt_rank_of_turn {cursor next : Cursor} (turned : cursor.turn? text = some (.ok next)) :
    cursor.rank < next.rank := by
  obtain ⟨char, _, looked⟩ := turn?_eq_some turned
  exact (moves_of_look looked).rank_lt

/-! ## All turns -/

/-- From every cursor the turns come to an end. -/
theorem exists_execution (text : Text) (cursor : Cursor) :
    ∃ turns result, Execution text cursor turns result := by
  induction left : 2 * text.length - cursor.rank using Nat.strongRecOn generalizing cursor with
  | ind left ih =>
      cases turned : cursor.turn? text with
      | none => exact ⟨_, _, .ended turned⟩
      | some outcome =>
          cases outcome with
          | error refusal => exact ⟨_, _, .refused turned⟩
          | ok next =>
              have inside := rank_lt_of_turn turned
              have raised := rank_lt_rank_of_turn turned
              obtain ⟨turns, result, rest⟩ := ih _ (by omega) next rfl
              exact ⟨_, _, .next turned rest⟩

section

variable {cursor : Cursor} {turns others : List Cursor} {result other : Except Refusal Scan}

theorem Execution.unique (execution : Execution text cursor turns result)
    (second : Execution text cursor others other) : others = turns ∧ other = result := by
  induction execution generalizing others with
  | ended behind =>
      cases second with
      | ended => exact ⟨rfl, rfl⟩
      | refused turned => simp [turned] at behind
      | next turned => simp [turned] at behind
  | refused turned =>
      cases second with
      | ended behind => simp [turned] at behind
      | refused again =>
          rw [turned] at again
          cases again
          exact ⟨rfl, rfl⟩
      | next again =>
          rw [turned] at again
          cases again
  | next turned _ ih =>
      cases second with
      | ended behind => simp [turned] at behind
      | refused again =>
          rw [turned] at again
          cases again
      | next again rest =>
          rw [turned] at again
          cases again
          obtain ⟨rfl, rfl⟩ := ih rest
          exact ⟨rfl, rfl⟩

/-- Each turn uses up a rank, and the ranks end with the text. -/
theorem Execution.length_le (execution : Execution text cursor turns result) :
    turns.length ≤ 2 * text.length - cursor.rank := by
  induction execution with
  | ended => exact Nat.zero_le _
  | refused turned =>
      have inside := rank_lt_of_turn turned
      rw [List.length_singleton]
      omega
  | next turned _ ih =>
      have inside := rank_lt_of_turn turned
      have raised := rank_lt_rank_of_turn turned
      rw [List.length_cons]
      omega

theorem Execution.rank_le (execution : Execution text cursor turns result) :
    ∀ later ∈ turns, cursor.rank ≤ later.rank := by
  induction execution with
  | ended => simp
  | refused => simp
  | next turned _ ih =>
      have raised := rank_lt_rank_of_turn turned
      intro later member
      rcases List.mem_cons.1 member with rfl | member
      · exact Nat.le_refl _
      · exact Nat.le_trans (Nat.le_of_lt raised) (ih later member)

theorem Execution.increasing (execution : Execution text cursor turns result) :
    turns.Pairwise fun first later => first.rank < later.rank := by
  induction execution with
  | ended => exact .nil
  | refused => exact List.pairwise_singleton _ _
  | next turned rest ih =>
      refine List.pairwise_cons.2 ⟨fun later member => ?_, ih⟩
      exact Nat.lt_of_lt_of_le (rank_lt_rank_of_turn turned) (rest.rank_le later member)

end

/-- The turns that look at the character at a place. -/
def turnsAt (index : Nat) (turns : List Cursor) : List Cursor :=
  turns.filter fun cursor => cursor.index == index

theorem index_of_mem_turnsAt {index : Nat} {turns : List Cursor} {cursor : Cursor}
    (member : cursor ∈ turnsAt index turns) : cursor.index = index :=
  beq_iff_eq.1 (List.mem_filter.1 member).2

section

variable {cursor : Cursor} {turns : List Cursor} {result : Except Refusal Scan}

theorem Execution.increasing_turnsAt (execution : Execution text cursor turns result)
    (index : Nat) : (turnsAt index turns).Pairwise fun first later => first.rank < later.rank :=
  execution.increasing.filter _

/-- The character at a place is looked at again in the mode of tags only. -/
theorem Execution.tagged_of_mem_tail (execution : Execution text cursor turns result)
    (index : Nat) : ∀ later ∈ (turnsAt index turns).tail, later.scan.mode = .tag := by
  have increasing := execution.increasing_turnsAt index
  have here : ∀ cursor ∈ turnsAt index turns, cursor.index = index := fun _ =>
    index_of_mem_turnsAt
  intro later member
  cases found : turnsAt index turns with
  | nil => simp [found] at member
  | cons first rest =>
      rw [found] at increasing here member
      have start := here first (by simp)
      have same := here later (List.mem_of_mem_tail member)
      have raised := (List.pairwise_cons.1 increasing).1 later member
      have least := first.rank_bounds.1
      exact Cursor.mode_of_rank (by omega)

/-- A place has two ranks only, and the second one is that of the mode of tags. -/
theorem Execution.length_turnsAt_le (execution : Execution text cursor turns result)
    (index : Nat) : (turnsAt index turns).length ≤ 2 := by
  have increasing := execution.increasing_turnsAt index
  have tagged := execution.tagged_of_mem_tail index
  have here : ∀ cursor ∈ turnsAt index turns, cursor.index = index := fun _ =>
    index_of_mem_turnsAt
  match found : turnsAt index turns with
  | [] => simp
  | [first] => simp
  | [first, second] => simp
  | first :: second :: third :: rest =>
      rw [found] at increasing tagged here
      have raised := (List.pairwise_cons.1 (List.pairwise_cons.1 increasing).2).1 third (by simp)
      have same := (here second (by simp)).trans (here third (by simp)).symm
      rw [Cursor.rank, Cursor.rank, tagged second (by simp), tagged third (by simp), same] at raised
      exact absurd raised (Nat.lt_irrefl _)

end

/-! ## What the turns come to -/

/-- What one pass over the characters from a cursor on that are not blank comes to. -/
def Cursor.pass (text : Text) (cursor : Cursor) : Except Refusal Scan :=
  (Text.compact (text.drop cursor.index)).foldlM step cursor.scan

theorem Cursor.pass_eq {index : Nat} (here : text[index]? = some char) (scan : Scan) :
    (Cursor.mk index scan).pass text =
      if Text.isBlank char then (Cursor.mk (index + 1) scan).pass text
      else step scan char >>= fun next => (Cursor.mk (index + 1) next).pass text := by
  obtain ⟨inside, rfl⟩ := List.getElem?_eq_some_iff.1 here
  simp only [pass]
  rw [List.drop_eq_getElem_cons inside, Text.compact_cons]
  split
  · rfl
  · rw [List.foldlM_cons]

/-- A turn leaves what is read in one pass as it is. -/
theorem Cursor.pass_of_turn {cursor next : Cursor} (turned : cursor.turn? text = some (.ok next)) :
    next.pass text = cursor.pass text := by
  obtain ⟨char, here, looked⟩ := turn?_eq_some turned
  cases moves_of_look looked with
  | passed index scan blank => rw [pass_eq here, if_pos blank]
  | took index visible stepped =>
      rw [pass_eq here, if_neg (by simp [visible]), stepped]
      rfl
  | stayed index visible _ after stepped =>
      have handed : ¬Text.isBlank char = true := by simp [visible]
      rw [pass_eq here, pass_eq here, if_neg handed, if_neg handed, stepped, step_of_tag after]

/-- What the turns come to is one pass over the characters that are not blank. -/
theorem Execution.result_eq {cursor : Cursor} {turns : List Cursor} {result : Except Refusal Scan}
    (execution : Execution text cursor turns result) : result = cursor.pass text := by
  induction execution with
  | @ended cursor behind =>
      have past := List.getElem?_eq_none_iff.1 (Option.map_eq_none_iff.1 behind)
      rw [Cursor.pass, List.drop_eq_nil_of_le past]
      rfl
  | @refused cursor refusal turned =>
      obtain ⟨char, here, looked⟩ := turn?_eq_some turned
      obtain ⟨visible, refused⟩ := refused_of_look looked
      rw [Cursor.pass_eq here, if_neg (by simp [visible]), refused]
      rfl
  | next turned _ ih => rw [ih, Cursor.pass_of_turn turned]

/-- A lenient reading turn by turn comes to an end, in one way only and within two turns for each
character of the text.  A turn that stays at its character leaves it to the mode of tags, and the
next turn takes it there; so each character is looked at no more than twice, the second time in the
mode of tags.  The turns come to one pass over the characters that are not blank, in which a step
takes what is handed over for a tag at once. -/
theorem read_by_turns (tolerant : Bool) (text : Text) :
    ∃ turns result,
      (∀ others other, Execution text {} others other ↔ others = turns ∧ other = result) ∧
      turns.length ≤ 2 * text.length ∧
      (∀ cursor next : Cursor, cursor.turn? text = some (.ok next) → next.index = cursor.index →
        next.scan.mode = .tag ∧
          ∃ char, text[cursor.index]? = some char ∧
            next.turn? text = some (.ok ⟨cursor.index + 1, takeTag next.scan char⟩) ∧
            step cursor.scan char = .ok (takeTag next.scan char)) ∧
      (∀ index, (turnsAt index turns).length ≤ 2 ∧
        ∀ later ∈ (turnsAt index turns).tail, later.scan.mode = .tag) ∧
      result = (Text.compact text).foldlM step {} ∧
      (result >>= finish tolerant) = read tolerant text := by
  obtain ⟨turns, result, execution⟩ := exists_execution text {}
  have same : result = (Text.compact text).foldlM step {} := execution.result_eq
  refine ⟨turns, result, fun others other => ⟨execution.unique, ?_⟩, execution.length_le,
    fun _ _ => turn?_of_stayed, fun index => ?_, same, ?_⟩
  · rintro ⟨rfl, rfl⟩
    exact execution
  · exact ⟨execution.length_turnsAt_le index, execution.tagged_of_mem_tail index⟩
  · rw [same, read]

/-- The letter of a short line is looked at twice: it ends the frame count, and then it is taken. -/
theorem read_by_turns_letter :
    let counted : Cursor := ⟨1, ⟨.frames, ⟨1, 1⟩, { frames := 0 }⟩⟩
    let handed : Cursor := ⟨1, ⟨.tag, ⟨1, 1⟩, { frames := 1 }⟩⟩
    counted.turn? "1R".toList = some (.ok handed) ∧
      handed.turn? "1R".toList = some (.ok ⟨2, takeTag handed.scan 'R'⟩) ∧
      Execution "1R".toList {} [{}, counted, handed] (.ok (takeTag handed.scan 'R')) := by
  intro counted handed
  obtain ⟨_, _, _, _, stays, _⟩ := read_by_turns true "1R".toList
  have second : counted.turn? "1R".toList = some (.ok handed) := rfl
  obtain ⟨_, char, here, third, _⟩ := stays counted handed second rfl
  cases here
  exact ⟨second, third, .next rfl (.next second (.next third (.ended rfl)))⟩

end FrameScript.Lenient
