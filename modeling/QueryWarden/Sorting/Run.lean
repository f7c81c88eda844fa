/-
Runs: stretches of items that are in order. The run at the front of some items is as
long as can be, and one that falls strictly is turned round. A run is lengthened by
putting further items in their places, which are found by halving. The order may fail
or be partial; the comparisons are made in a fixed sequence, so that which of them
fails first is settled. Nothing is lost and nothing added.
-/

namespace QueryWarden.Sorting

variable {α ε : Type}

/-- Goes on with a run for as long as each item falls below the one before it, or for
as long as none does. -/
def extend (less : α → α → Except ε Bool) (falling : Bool) :
    (last : α) → List α → Except ε (List α × List α)
  | _, [] => .ok ([], [])
  | last, item :: rest =>
      match less item last with
      | .error fault => .error fault
      | .ok falls =>
          if falls = falling then
            (extend less falling item rest).map (fun found => (item :: found.1, found.2))
          else .ok ([], item :: rest)

def firstRun (less : α → α → Except ε Bool) : List α → Except ε (List α × List α)
  | [] => .ok ([], [])
  | [only] => .ok ([only], [])
  | first :: second :: rest =>
      match less second first with
      | .error fault => .error fault
      | .ok falling =>
          (extend less falling first (second :: rest)).map (fun found =>
            (if falling then (first :: found.1).reverse else first :: found.1, found.2))

/-- Puts an item behind all that it does not stand before, found by halving. -/
def insert (less : α → α → Except ε Bool) (item : α) (sorted : List α) :
    Except ε (List α) :=
  match _halved : sorted.drop (sorted.length / 2) with
  | [] => .ok [item]
  | middle :: back =>
      match less item middle with
      | .error fault => .error fault
      | .ok true =>
          (insert less item (sorted.take (sorted.length / 2))).map
            (fun front => front ++ middle :: back)
      | .ok false =>
          (insert less item back).map
            (fun back => sorted.take (sorted.length / 2) ++ middle :: back)
termination_by sorted.length
decreasing_by
  · have := congrArg List.length _halved
    simp only [List.length_drop, List.length_cons] at this
    simp only [List.length_take]
    omega
  · have := congrArg List.length _halved
    simp only [List.length_drop, List.length_cons] at this
    omega

def insertAll (less : α → α → Except ε Bool) : (sorted : List α) → List α → Except ε (List α)
  | sorted, [] => .ok sorted
  | sorted, item :: rest =>
      match insert less item sorted with
      | .error fault => .error fault
      | .ok sorted => insertAll less sorted rest

/-! ### Nothing is lost or added -/

theorem of_map_eq_ok {β γ : Type} {change : β → γ} {result : Except ε β} {value : γ}
    (mapped : result.map change = .ok value) : ∃ found, result = .ok found ∧ change found = value := by
  cases result with
  | error fault => cases mapped
  | ok found => exact ⟨found, rfl, Except.ok.inj mapped⟩

theorem extend_append {less : α → α → Except ε Bool} {falling : Bool} {last : α}
    {items : List α} {found : List α × List α}
    (extended : extend less falling last items = .ok found) : found.1 ++ found.2 = items := by
  induction items generalizing last found with
  | nil =>
      cases Except.ok.inj extended
      rfl
  | cons item rest ih =>
      unfold extend at extended
      cases compared : less item last with
      | error fault => rw [compared] at extended; cases extended
      | ok falls =>
          rw [compared] at extended
          by_cases goesOn : falls = falling
          · simp only [if_pos goesOn] at extended
            obtain ⟨more, tail, rfl⟩ := of_map_eq_ok extended
            rw [List.cons_append, ih tail]
          · simp only [if_neg goesOn] at extended
            cases Except.ok.inj extended
            rfl

theorem firstRun_perm {less : α → α → Except ε Bool} {items : List α}
    {found : List α × List α} (run : firstRun less items = .ok found) :
    (found.1 ++ found.2).Perm items := by
  match items with
  | [] =>
      cases Except.ok.inj run
      exact .refl _
  | [only] =>
      cases Except.ok.inj run
      exact .refl _
  | first :: second :: rest =>
      rw [firstRun] at run
      cases compared : less second first with
      | error fault => rw [compared] at run; cases run
      | ok falling =>
          rw [compared] at run
          obtain ⟨more, extended, rfl⟩ := of_map_eq_ok run
          have whole := extend_append extended
          cases falling with
          | false =>
              change (first :: (more.1 ++ more.2)).Perm _
              rw [whole]
          | true =>
              change ((first :: more.1).reverse ++ more.2).Perm _
              refine ((List.reverse_perm (first :: more.1)).append_right more.2).trans ?_
              rw [List.cons_append, whole]

theorem insert_perm (less : α → α → Except ε Bool) (item : α) (sorted : List α) :
    ∀ result, insert less item sorted = .ok result → result.Perm (item :: sorted) := by
  fun_induction insert less item sorted with
  | case1 sorted halved =>
      intro result inserted
      cases Except.ok.inj inserted
      have short : sorted.length ≤ sorted.length / 2 := List.drop_eq_nil_iff.mp halved
      have nothing : sorted = [] := List.eq_nil_of_length_eq_zero (by omega)
      rw [nothing]
  | case2 sorted middle back halved fault compared => intro result inserted; cases inserted
  | case3 sorted middle back halved compared ih =>
      intro result inserted
      obtain ⟨front, placed, rfl⟩ := of_map_eq_ok inserted
      have whole := List.take_append_drop (sorted.length / 2) sorted
      rw [halved] at whole
      refine ((ih front placed).append_right (middle :: back)).trans ?_
      rw [List.cons_append, whole]
  | case4 sorted middle back halved compared ih =>
      intro result inserted
      obtain ⟨placed, found, rfl⟩ := of_map_eq_ok inserted
      have whole := List.take_append_drop (sorted.length / 2) sorted
      rw [halved] at whole
      refine (((ih placed found).cons middle).append_left _).trans ?_
      refine ((List.Perm.swap item middle back).append_left _).trans ?_
      refine List.perm_middle.trans ?_
      rw [whole]

theorem insertAll_perm {less : α → α → Except ε Bool} {sorted items result : List α}
    (inserted : insertAll less sorted items = .ok result) : result.Perm (sorted ++ items) := by
  induction items generalizing sorted with
  | nil =>
      cases Except.ok.inj inserted
      rw [List.append_nil]
  | cons item rest ih =>
      unfold insertAll at inserted
      cases placed : insert less item sorted with
      | error fault => rw [placed] at inserted; cases inserted
      | ok next =>
          rw [placed] at inserted
          refine (ih inserted).trans ?_
          refine ((insert_perm less item sorted next placed).append_right rest).trans ?_
          exact List.perm_middle.symm

end QueryWarden.Sorting
