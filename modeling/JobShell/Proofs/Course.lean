import JobShell.Course
import JobShell.Proofs.Likeness

/-!
# Runs and their courses

A run is told by its course, prompt by prompt, and by what comes at its end. So two runs are alike if
their courses are.

* `listen_eq_close`, `listenShared_eq_close`: a run is its course and what comes at the end.
* `Like.follow`: a round of two runs that are alike.
-/

namespace JobShell.Session

variable {L : Likeness} {env : Environment} {s t : Session} {r q : Reading}

theorem close_follow (env : Environment) (r : Reading) (s : Session) {next : Session → Course}
    {rest : Session → Session × Ending} (closes : ∀ s, rest s = (next s).close) :
    (match s.round env r with
      | (s, none) => rest s
      | (s, some ending) => (s, ending)) = (s.follow env r next).close := by
  rw [round_eq, follow]
  generalize s.step env r = result
  obtain ⟨m, outcome⟩ := result
  cases outcome with
  | ok => exact closes m.afterLine
  | stuck pid => rfl
  | error e =>
    cases e with
    | exit code => rfl
    | _ => exact closes (m.report _).afterLine

/-- A run is its course, closed. -/
theorem listen_eq_close (env : Environment) (rs : List Reading) (s : Session) :
    s.listen env rs = (s.course env rs).close := by
  induction rs generalizing s with
  | nil => rfl
  | cons r rs ih =>
    rw [listen, course]
    exact close_follow env r s ih

theorem listenShared_eq_close (env : Environment) (rs : List Reading) (s : Session) :
    s.listenShared env rs = (s.courseShared env rs).close := by
  induction rs generalizing s with
  | nil => rfl
  | cons r rs ih =>
    rw [listenShared, courseShared]
    generalize s.supply r = supplied
    obtain ⟨s, goes_on⟩ := supplied
    cases goes_on with
    | false => exact listen_eq_close env _ s
    | true => exact close_follow env r s ih

/-! ## Courses that are alike -/

/-- Two courses that go through sessions that are alike. -/
structure Course.Like (L : Likeness) (c d : Course) : Prop where
  prompts : List.Forall₂ (Session.Like L) c.prompts d.prompts
  last : Session.Like L c.last d.last
  halt : d.halt = c.halt

theorem forall₂_inits {α β : Type} {R : α → β → Prop} {as : List α} {bs : List β}
    (related : List.Forall₂ R as bs) : List.Forall₂ (List.Forall₂ R) as.inits bs.inits := by
  induction related with
  | nil => exact .cons .nil .nil
  | cons first _ ih =>
    rw [List.inits_cons, List.inits_cons]
    refine .cons .nil (List.forall₂_map_left_iff.2 (List.forall₂_map_right_iff.2 ?_))
    exact ih.imp fun _ _ rest => .cons first rest

/-- Sessions that are alike wait at prompts that are alike. -/
theorem Like.atPrompt (like : Like L s t) (read : ReadsLike L r q) :
    List.Forall₂ (Like L) (s.atPrompt r) (t.atPrompt q) := by
  refine List.forall₂_map_left_iff.2 (List.forall₂_map_right_iff.2 ?_)
  exact (forall₂_inits read.waits).imp fun _ _ waited => like.prompted waited

/-- After a round that leaves two runs alike, they go on in the same way, or end. -/
theorem Like.follow (shared : ∀ id, L.Shares id) (like : Like L s t) (read : ReadsLike L r q)
    (passed : (∀ pid, (s.step env r).2 ≠ .stuck pid) →
      Like L (s.step env r).1.afterLine (t.step env q).1.afterLine ∧
      ∀ e, Like L ((s.step env r).1.report e).afterLine ((t.step env q).1.report e).afterLine)
    {next next' : Session → Course}
    (later : ∀ {m n : Session}, s.round env r = (m, none) → Like L m n →
      Course.Like L (next m) (next' n)) :
    Course.Like L (s.follow env r next) (t.follow env q next') := by
  have prompts := like.atPrompt read
  obtain ⟨like', outcomes⟩ := like.step shared env read
  have after : ∀ {a b : Course}, Course.Like L a b → Course.Like L
      { a with prompts := s.atPrompt r ++ a.prompts }
      { b with prompts := t.atPrompt q ++ b.prompts } := fun rest =>
    ⟨List.rel_append prompts rest.prompts, rest.last, rest.halt⟩
  cases result : s.step env r with
  | mk m outcome =>
  cases result' : t.step env q with
  | mk n outcome' =>
  rw [result, result'] at like' outcomes passed
  dsimp only at like' outcomes passed
  subst outcomes
  rw [Session.follow, Session.follow, result, result']
  cases outcome' with
  | stuck pid => exact ⟨prompts, like', rfl⟩
  | ok => exact after (later (by rw [Session.round_eq, result]) (passed (by simp)).1)
  | error e =>
    cases e with
    | exit code => exact ⟨prompts, like', rfl⟩
    | _ => exact after (later (by rw [Session.round_eq, result]) ((passed (by simp)).2 _))

end JobShell.Session
