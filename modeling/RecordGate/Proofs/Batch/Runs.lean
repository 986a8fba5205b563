import RecordGate.Proofs.Batch.Driving

/-!
# Runs of batches

What happens to the batches of a file does not depend on where they go: it is told by what is answered to the
question whether to stop (`Batches.Run`, with the answers and the batches in their order). Whoever drives the
batches goes through such a run (`Batches.drive_run`), and two runs of one file whose answers do not contradict
each other are the same (`Batches.Run.unique`).
-/

namespace RecordGate.Batches

/-- From a file through these answers and these batches to what the file is at the end. -/
inductive Run : Batches → List Bool → List JudgedBatch → Batches → Prop
  /-- Nothing is asked of a file that is at its end. -/
  | closed {b : Batches} : b.isOpen = false → Run b [] [] b
  /-- Somebody wants to stop. -/
  | stopped {b : Batches} : b.isOpen = true → Run b [true] [] { b with cancelled := true }
  /-- It is to go on, but there is no row left. -/
  | ended {b later : Batches} : b.isOpen = true → b.next = (none, later) → Run b [false] [] later
  /-- A batch is judged, and the run goes on with what is left. -/
  | judged {b later last : Batches} {batch : JudgedBatch} {answers : List Bool} {batches : List JudgedBatch} :
      b.isOpen = true → b.next = (some batch, later) → Run later answers batches last →
      Run b (false :: answers) (batch :: batches) last

variable {σ : Type} {poll : σ → Bool × σ} {take : JudgedBatch → σ → σ} {b : Batches} {s : σ}

/--
**Driving batches is a run**, and what is known of the state grows with it: if it is kept by every question with
its answer and by every batch, it holds at the end of all the answers and batches of the run.
-/
theorem drive_run {I : List Bool → List JudgedBatch → σ → Prop}
    (asked : ∀ answers batches s, I answers batches s → I (answers ++ [(poll s).1]) batches (poll s).2)
    (taken : ∀ answers batches s batch, I answers batches s → I answers (batches ++ [batch]) (take batch s))
    {before : List Bool} {done : List JudgedBatch} (h : I before done s) :
    ∃ answers batches, Run b answers batches (drive poll take b s).1 ∧
      I (before ++ answers) (done ++ batches) (drive poll take b s).2 := by
  fun_induction drive poll take b s generalizing before done with
  | case1 b s opened s' stop =>
    have held := asked before done s h
    rw [stop] at held
    exact ⟨[true], [], .stopped opened, by simpa using held⟩
  | case2 b s opened s' go batch later next ih =>
    have held := asked before done s h
    rw [go] at held
    obtain ⟨answers, batches, run, kept⟩ := ih (taken _ done s' batch held)
    refine ⟨false :: answers, batch :: batches, .judged opened next run, ?_⟩
    simpa using kept
  | case3 b s opened s' go later next =>
    have held := asked before done s h
    rw [go] at held
    exact ⟨[false], [], .ended opened next, by simpa using held⟩
  | case4 b s closed => exact ⟨[], [], .closed (by simpa using closed), by simpa using h⟩

/-! ## Driving step by step -/

theorem drive_of_stop {s' : σ} (opened : b.isOpen = true) (stop : poll s = (true, s')) :
    drive poll take b s = ({ b with cancelled := true }, s') := by
  rw [drive, if_pos opened, stop]

theorem drive_of_next_none {s' : σ} {later : Batches} (opened : b.isOpen = true) (go : poll s = (false, s'))
    (next : b.next = (none, later)) : drive poll take b s = (later, s') := by
  rw [drive, if_pos opened, go]
  simp only
  split
  · next found => cases next.symm.trans found
  · next found =>
    cases next.symm.trans found
    rfl

theorem drive_of_next_some {s' : σ} {batch : JudgedBatch} {later : Batches} (opened : b.isOpen = true)
    (go : poll s = (false, s')) (next : b.next = (some batch, later)) :
    drive poll take b s = drive poll take later (take batch s') := by
  rw [drive, if_pos opened, go]
  simp only
  split
  · next found =>
    cases next.symm.trans found
    rfl
  · next found => cases next.symm.trans found

/-- Where a view of the state is driven alike, the batches come to the same end with the same view. -/
theorem drive_view {τ : Type} {poll' : τ → Bool × τ} {take' : JudgedBatch → τ → τ} (view : τ → σ)
    (asked : ∀ t, poll (view t) = ((poll' t).1, view (poll' t).2))
    (taken : ∀ batch t, take batch (view t) = view (take' batch t)) (b : Batches) (t : τ) :
    drive poll take b (view t) = ((drive poll' take' b t).1, view (drive poll' take' b t).2) := by
  fun_induction drive poll' take' b t with
  | case1 b t opened t' stop =>
    have stop' : poll (view t) = (true, view t') := by rw [asked, stop]
    exact drive_of_stop opened stop'
  | case2 b t opened t' go batch later next ih =>
    have go' : poll (view t) = (false, view t') := by rw [asked, go]
    rw [drive_of_next_some opened go' next, taken, ih]
  | case3 b t opened t' go later next =>
    have go' : poll (view t) = (false, view t') := by rw [asked, go]
    exact drive_of_next_none opened go' next
  | case4 b t closed => rw [drive, if_neg closed]

/-! ## The answers tell the run -/

namespace Run

variable {last last' : Batches} {answers answers' : List Bool} {batches batches' : List JudgedBatch}

/-- Of two runs of one file one has asked more than the other only if it was answered otherwise. -/
theorem unique (h : Run b answers batches last) (h' : Run b answers' batches' last')
    (agree : answers <+: answers' ∨ answers' <+: answers) :
    answers = answers' ∧ batches = batches' ∧ last = last' := by
  induction h generalizing answers' batches' with
  | closed closed =>
    cases h' with
    | closed => exact ⟨rfl, rfl, rfl⟩
    | stopped opened | ended opened | judged opened => simp [closed] at opened
  | stopped opened =>
    cases h' with
    | closed closed => simp [closed] at opened
    | stopped => exact ⟨rfl, rfl, rfl⟩
    | ended | judged => simp at agree
  | ended opened next =>
    cases h' with
    | closed closed => simp [closed] at opened
    | stopped => simp at agree
    | ended _ next' =>
      rw [next] at next'
      cases next'
      exact ⟨rfl, rfl, rfl⟩
    | judged _ next' =>
      rw [next] at next'
      cases next'
  | judged opened next _ ih =>
    cases h' with
    | closed closed => simp [closed] at opened
    | stopped => simp at agree
    | ended _ next' =>
      rw [next] at next'
      cases next'
    | judged _ next' rest =>
      rw [next] at next'
      cases next'
      obtain ⟨rfl, rfl, rfl⟩ := ih rest (by simpa [List.cons_prefix_cons] using agree)
      exact ⟨rfl, rfl, rfl⟩

end Run

end RecordGate.Batches
