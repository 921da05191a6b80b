import PodSizing.Cluster.Listing

/-!
# What listings bring

Scopes are listed in their order until one fails.  A listing is determined by what its attempts
brought: it is the first error, or else all items together.
-/

namespace PodSizing

theorem toOption_eq_some_iff {ε α : Type} {result : Except ε α} {value : α} :
    result.toOption = some value ↔ result = .ok value := by
  cases result <;> simp [Except.toOption]

section Attempts

variable {m : Type → Type} [Monad m] {ε α : Type}

/-- What each scope brings, up to the first failure. -/
def listAttempts (list : Scope → m (Except ε (List α))) :
    List Scope → m (List (Scope × Except ε (List α)))
  | [] => pure []
  | scope :: rest => do
      match ← list scope with
      | .error error => return [(scope, .error error)]
      | .ok items => return (scope, .ok items) :: (← listAttempts list rest)

/-- The first error, or else all items. -/
def gather : List (Scope × Except ε (List α)) → Except ε (List α)
  | [] => .ok []
  | (_, .error error) :: _ => .error error
  | (_, .ok items) :: rest => (gather rest).map (items ++ ·)

/-- Attempts that all brought items. -/
def successes (lists : List (Scope × List α)) : List (Scope × Except ε (List α)) :=
  lists.map fun (scope, items) => (scope, .ok items)

/-- A listing gathers what its attempts brought. -/
theorem listScopes_eq_gather [LawfulMonad m] (list : Scope → m (Except ε (List α)))
    (scopes : List Scope) : listScopes list scopes = gather <$> listAttempts list scopes := by
  induction scopes with
  | nil => simp [listScopes, listAttempts, gather]
  | cons scope rest ih =>
      rw [listScopes, listAttempts, map_bind]
      refine bind_congr fun listed => ?_
      cases listed with
      | error error => simp [gather]
      | ok items => simp [ih, gather]

/-- All items were gathered when every attempt brought its own. -/
theorem gather_eq_ok_iff {attempts : List (Scope × Except ε (List α))} {items : List α} :
    gather attempts = .ok items ↔
      ∃ lists, attempts = successes lists ∧ items = lists.flatMap Prod.snd := by
  induction attempts generalizing items with
  | nil =>
      constructor
      · intro gathered
        cases gathered
        exact ⟨[], rfl, rfl⟩
      · rintro ⟨lists, same, rfl⟩
        rw [List.map_eq_nil_iff.mp same.symm]
        rfl
  | cons attempt rest ih =>
      obtain ⟨scope, error | listed⟩ := attempt
      · constructor
        · intro gathered
          contradiction
        · rintro ⟨lists, same, -⟩
          obtain ⟨_, _, -, head, -⟩ := List.map_eq_cons_iff.mp same.symm
          cases head
      · constructor
        · intro gathered
          rw [gather] at gathered
          cases restGathered : gather rest with
          | error error =>
              rw [restGathered] at gathered
              cases gathered
          | ok others =>
              obtain ⟨lists, rfl, rfl⟩ := ih.mp restGathered
              rw [restGathered] at gathered
              cases gathered
              exact ⟨(scope, listed) :: lists, rfl, rfl⟩
        · rintro ⟨lists, same, rfl⟩
          obtain ⟨⟨_, _⟩, others, rfl, head, tail⟩ := List.map_eq_cons_iff.mp same.symm
          cases head
          rw [gather, ih.mpr ⟨others, tail.symm, rfl⟩]
          rfl

end Attempts

section Scopes

variable {σ ε α : Type} {list : Scope → StateM σ (Except ε (List α))}

theorem run_listAttempts_cons (list : Scope → StateM σ (Except ε (List α))) (scope : Scope)
    (rest : List Scope) (state : σ) :
    (listAttempts list (scope :: rest)).run state =
      match (list scope).run state with
      | (.error error, middle) => ([(scope, .error error)], middle)
      | (.ok items, middle) =>
          let (attempts, last) := (listAttempts list rest).run middle
          ((scope, .ok items) :: attempts, last) := by
  rw [listAttempts, StateT.run_bind]
  rcases (list scope).run state with ⟨error | items, middle⟩ <;> rfl

/-- Where no attempt failed, every scope was listed. -/
theorem scopes_of_listAttempts {scopes : List Scope} {lists : List (Scope × List α)}
    {state last : σ} (ran : (listAttempts list scopes).run state = (successes lists, last)) :
    lists.map Prod.fst = scopes := by
  induction scopes generalizing lists state with
  | nil =>
      have none : successes lists = ([] : List (Scope × Except ε (List α))) :=
        (Prod.mk.inj ran).1.symm
      rw [List.map_eq_nil_iff.mp none, List.map_nil]
  | cons scope rest ih =>
      rw [run_listAttempts_cons] at ran
      split at ran
      · obtain ⟨_, _, -, head, -⟩ := List.map_eq_cons_iff.mp (Prod.mk.inj ran).1.symm
        cases head
      · rename_i items middle first
        obtain ⟨⟨_, _⟩, others, rfl, head, tail⟩ :=
          List.map_eq_cons_iff.mp (Prod.mk.inj ran).1.symm
        cases head
        have restRan : (listAttempts list rest).run middle = (successes others, last) :=
          Prod.ext tail.symm (Prod.mk.inj ran).2
        rw [List.map_cons, ih restRan]

/-- Where each scope can be listed in any state, the items of a listing are those of its scopes. -/
theorem exists_perm_of_listScopes {items : Scope → List α} {scopes : List Scope}
    (each : ∀ scope ∈ scopes, ∀ state, ∃ listed next,
      (list scope).run state = (.ok listed, next) ∧ listed.Perm (items scope)) (state : σ) :
    ∃ listed next, (listScopes list scopes).run state = (.ok listed, next) ∧
      listed.Perm (scopes.flatMap items) := by
  induction scopes generalizing state with
  | nil => exact ⟨[], state, rfl, .nil⟩
  | cons scope rest ih =>
      obtain ⟨first, middle, ran, perm⟩ := each scope List.mem_cons_self state
      obtain ⟨others, next, restRan, restPerm⟩ :=
        ih (fun other mem => each other (List.mem_cons_of_mem scope mem)) middle
      refine ⟨first ++ others, next, ?_, ?_⟩
      · rw [listScopes, StateT.run_bind, ran]
        change (listScopes list rest >>= _).run middle = _
        rw [StateT.run_bind, restRan]
        rfl
      · rw [List.flatMap_cons]
        exact perm.append restPerm

end Scopes

end PodSizing
