import Mathlib.Data.List.Basic

/-!
# Stack effects

A stack program transforms an operand stack and a side state, and may fail.
Its stack effect says how many operands it consumes and produces when it never
looks below them.  Effects compose, so the effect of a program follows from the
effects of its parts.
-/

namespace KeepGateway
namespace StackEffect

variable {ε α μ : Type}

/-- Transforms a stack, top first, and a side state. -/
abbrev Program (ε α μ : Type) := List α × μ -> Except ε (List α × μ)

/-- Puts a result back on the rest of the stack. -/
def onto (stack : List α) (s : List α × μ) : List α × μ := (s.1 ++ stack, s.2)

/-- On `n` operands the program ignores what lies below and leaves `k` values. -/
def HasEffect (f : Program ε α μ) (n k : Nat) : Prop :=
  forall top : List α, top.length = n -> forall side : μ,
    (forall stack, f (top ++ stack, side) = (f (top, side)).map (onto stack)) ∧
      forall s, f (top, side) = .ok s -> s.1.length = k

theorem HasEffect.frame {f : Program ε α μ} {n k : Nat} (hf : HasEffect f n k)
    {top : List α} (htop : top.length = n) (stack : List α) (side : μ) :
    f (top ++ stack, side) = (f (top, side)).map (onto stack) :=
  (hf top htop side).left stack

theorem HasEffect.length {f : Program ε α μ} {n k : Nat} (hf : HasEffect f n k)
    {top : List α} (htop : top.length = n) {side : μ} {s : List α × μ}
    (hs : f (top, side) = .ok s) : s.1.length = k :=
  (hf top htop side).right s hs

/-- A program without operands behaves on any stack as on the empty one. -/
theorem HasEffect.frame_nil {f : Program ε α μ} {k : Nat} (hf : HasEffect f 0 k)
    (stack : List α) (side : μ) :
    f (stack, side) = (f ([], side)).map (onto stack) := by
  have hempty : ([] : List α).length = 0 := rfl
  simpa using hf.frame hempty stack side

theorem hasEffect_skip (n : Nat) :
    HasEffect (fun s : List α × μ => (.ok s : Except ε _)) n n := by
  intro top htop side
  constructor
  · intro stack
    rfl
  · intro s hs
    cases hs
    exact htop

/-- A program that always fails with the same exception has every effect. -/
theorem hasEffect_fail (e : ε) (n k : Nat) :
    HasEffect (fun _ : List α × μ => .error e) n k := by
  intro top _ side
  constructor
  · intro stack
    rfl
  · intro s hs
    cases hs

/-- More operands may lie below the ones a program uses. -/
theorem HasEffect.extend {f : Program ε α μ} {n k : Nat} (hf : HasEffect f n k)
    (j : Nat) : HasEffect f (n + j) (k + j) := by
  intro top htop side
  have hsplit : top = top.take n ++ top.drop n := (List.take_append_drop n top).symm
  have htake : (top.take n).length = n := by
    rw [List.length_take]
    omega
  have hdrop : (top.drop n).length = j := by
    rw [List.length_drop]
    omega
  constructor
  · intro stack
    rw [hsplit, List.append_assoc, hf.frame htake, hf.frame htake]
    cases f (top.take n, side) with
    | error e => rfl
    | ok s => simp [Except.map, onto]
  · intro s hs
    rw [hsplit, hf.frame htake] at hs
    cases hrun : f (top.take n, side) with
    | error e =>
        rw [hrun] at hs
        cases hs
    | ok s' =>
        rw [hrun] at hs
        cases hs
        have hlen := hf.length htake hrun
        simp [onto, hlen, hdrop]

theorem HasEffect.comp {f g : Program ε α μ} {n k l : Nat}
    (hf : HasEffect f n k) (hg : HasEffect g k l) :
    HasEffect (fun s => f s >>= g) n l := by
  intro top htop side
  constructor
  · intro stack
    show f (top ++ stack, side) >>= g = (f (top, side) >>= g).map (onto stack)
    rw [hf.frame htop]
    cases hrun : f (top, side) with
    | error e => rfl
    | ok s => exact hg.frame (hf.length htop hrun) stack s.2
  · intro s hs
    cases hrun : f (top, side) with
    | error e =>
        simp only [hrun] at hs
        cases hs
    | ok s' =>
        simp only [hrun] at hs
        have hlen : s'.1.length = k := hf.length htop hrun
        exact (hg s'.1 hlen s'.2).right s hs

/-- A program that pushes one operand for each of two subprograms and then
combines them. -/
theorem HasEffect.binary {f g h : Program ε α μ}
    (hf : HasEffect f 0 1) (hg : HasEffect g 0 1) (hh : HasEffect h 2 1) :
    HasEffect (fun s => f s >>= fun s => g s >>= h) 0 1 :=
  hf.comp ((hg.extend 1).comp hh)

/-!
## Operators

A program that pops a fixed number of operands and pushes one result.
-/

/-- Pushes the result of an operator. -/
def pushing (stack : List α) (r : α × μ) : List α × μ := (r.1 :: stack, r.2)

theorem hasEffect_zero {f : Program ε α μ} (g : μ -> Except ε (α × μ))
    (hg : forall stack side, f (stack, side) = (g side).map (pushing stack)) :
    HasEffect f 0 1 := by
  intro top htop side
  rcases List.eq_nil_of_length_eq_zero htop with rfl
  constructor
  · intro stack
    rw [List.nil_append, hg, hg]
    cases g side <;> rfl
  · intro s hs
    rw [hg] at hs
    cases hrun : g side with
    | error e =>
        rw [hrun] at hs
        cases hs
    | ok r =>
        rw [hrun] at hs
        cases hs
        rfl

theorem hasEffect_one {f : Program ε α μ} (g : α -> μ -> Except ε (α × μ))
    (hg : forall x stack side, f (x :: stack, side) = (g x side).map (pushing stack)) :
    HasEffect f 1 1 := by
  intro top htop side
  rcases List.length_eq_one_iff.mp htop with ⟨x, rfl⟩
  constructor
  · intro stack
    show f (x :: stack, side) = _
    rw [hg, hg]
    cases g x side <;> rfl
  · intro s hs
    rw [hg] at hs
    cases hrun : g x side with
    | error e =>
        rw [hrun] at hs
        cases hs
    | ok r =>
        rw [hrun] at hs
        cases hs
        rfl

theorem hasEffect_two {f : Program ε α μ} (g : α -> α -> μ -> Except ε (α × μ))
    (hg : forall x y stack side,
      f (y :: x :: stack, side) = (g x y side).map (pushing stack)) :
    HasEffect f 2 1 := by
  intro top htop side
  rcases List.length_eq_two.mp htop with ⟨y, x, rfl⟩
  constructor
  · intro stack
    show f (y :: x :: stack, side) = _
    rw [hg, hg]
    cases g x y side <;> rfl
  · intro s hs
    rw [hg] at hs
    cases hrun : g x y side with
    | error e =>
        rw [hrun] at hs
        cases hs
    | ok r =>
        rw [hrun] at hs
        cases hs
        rfl

/-!
## Stack heights

On a stack that is too low a program may fail, or take a value it does not own.
Its successful runs still change the height by a fixed amount.
-/

/-- A successful run turns `n` values of the stack into `k`. -/
def Resizes (f : Program ε α μ) (n k : Nat) : Prop :=
  forall s s', f s = .ok s' -> s'.1.length + n = s.1.length + k

theorem Resizes.balance {f : Program ε α μ} {n k n' k' : Nat} (hf : Resizes f n k)
    (h : n' + k = n + k') : Resizes f n' k' := by
  intro s s' hs
  have hlen := hf s s' hs
  omega

theorem Resizes.comp {f g : Program ε α μ} {n k n' k' : Nat}
    (hf : Resizes f n k) (hg : Resizes g n' k') :
    Resizes (fun s => f s >>= g) (n + n') (k + k') := by
  intro s s'' hs
  cases hrun : f s with
  | error e =>
      simp only [hrun] at hs
      cases hs
  | ok s' =>
      simp only [hrun] at hs
      have hleft := hf s s' hrun
      have hright := hg s' s'' hs
      omega

theorem resizes_skip : Resizes (fun s : List α × μ => (.ok s : Except ε _)) 0 0 := by
  intro s s' hs
  cases hs
  rfl

theorem resizes_fail (e : ε) (n k : Nat) :
    Resizes (fun _ : List α × μ => .error e) n k := by
  intro s s' hs
  cases hs

/-- With its operands on the stack, a program changes the height by its effect. -/
theorem HasEffect.height {f : Program ε α μ} {n k : Nat} (hf : HasEffect f n k)
    {s s' : List α × μ} (hle : n <= s.1.length) (hs : f s = .ok s') :
    s'.1.length + n = s.1.length + k := by
  have htake : (s.1.take n).length = n := by
    rw [List.length_take]
    omega
  have hsplit : s = (s.1.take n ++ s.1.drop n, s.2) := by
    rw [List.take_append_drop]
  rw [hsplit, hf.frame htake] at hs
  cases hrun : f (s.1.take n, s.2) with
  | error e =>
      rw [hrun] at hs
      cases hs
  | ok r =>
      rw [hrun] at hs
      cases hs
      have hr := hf.length htake hrun
      simp only [onto, List.length_append, List.length_drop, hr]
      omega

/-- The effect of a program that fails when operands are missing. -/
theorem HasEffect.resizes {f : Program ε α μ} {n k : Nat} (hf : HasEffect f n k)
    (hfail : forall s s', s.1.length < n -> f s ≠ .ok s') : Resizes f n k := by
  intro s s' hs
  apply hf.height _ hs
  by_contra hlt
  exact hfail s s' (by omega) hs

/-!
## The side state

A program may ignore the side state it starts from, or leave it alone and not
look at it.
-/

/-- The side state a program starts from does not matter. -/
def Overwrites (f : Program ε α μ) (n : Nat) : Prop :=
  forall top : List α, top.length = n -> forall side side' : μ,
    f (top, side) = f (top, side')

/-- The program works on the stack alone. -/
def Ignores (f : Program ε α μ) (n : Nat) : Prop :=
  forall top : List α, top.length = n -> forall side side' : μ,
    f (top, side') = (f (top, side)).map fun s => (s.1, side')

/-- What a program that works on the stack alone leaves as side state. -/
theorem Ignores.side {f : Program ε α μ} {n : Nat} (hf : Ignores f n)
    {top : List α} (htop : top.length = n) {side : μ} {s : List α × μ}
    (hs : f (top, side) = .ok s) : s.2 = side := by
  have h := hf top htop side side
  rw [hs] at h
  have hpair : s = (s.1, side) := by simpa [Except.map] using h
  rw [hpair]

theorem ignores_skip (n : Nat) :
    Ignores (fun s : List α × μ => (.ok s : Except ε _)) n := by
  intro top _ side side'
  rfl

theorem ignores_fail (e : ε) (n : Nat) :
    Ignores (fun _ : List α × μ => .error e) n := by
  intro top _ side side'
  rfl

theorem Ignores.extend {f : Program ε α μ} {n k : Nat} (hf : Ignores f n)
    (he : HasEffect f n k) (j : Nat) : Ignores f (n + j) := by
  intro top htop side side'
  have hsplit : top = top.take n ++ top.drop n := (List.take_append_drop n top).symm
  have htake : (top.take n).length = n := by
    rw [List.length_take]
    omega
  rw [hsplit, he.frame htake, he.frame htake, hf _ htake side side']
  cases f (top.take n, side) <;> rfl

theorem Overwrites.extend {f : Program ε α μ} {n k : Nat} (hf : Overwrites f n)
    (he : HasEffect f n k) (j : Nat) : Overwrites f (n + j) := by
  intro top htop side side'
  have hsplit : top = top.take n ++ top.drop n := (List.take_append_drop n top).symm
  have htake : (top.take n).length = n := by
    rw [List.length_take]
    omega
  rw [hsplit, he.frame htake, he.frame htake, hf _ htake side side']

theorem Ignores.comp {f g : Program ε α μ} {n k : Nat} (hf : Ignores f n)
    (he : HasEffect f n k) (hg : Ignores g k) :
    Ignores (fun s => f s >>= g) n := by
  intro top htop side side'
  show f (top, side') >>= g = (f (top, side) >>= g).map _
  rw [hf top htop side side']
  cases hrun : f (top, side) with
  | error e => rfl
  | ok s =>
      have hside : s.2 = side := hf.side htop hrun
      have hlen : s.1.length = k := he.length htop hrun
      show g (s.1, side') = (g s).map _
      rw [hg s.1 hlen side side']
      simp [← hside]

theorem Ignores.binary {f g h : Program ε α μ}
    (hf : Ignores f 0) (hef : HasEffect f 0 1)
    (hg : Ignores g 0) (heg : HasEffect g 0 1) (hh : Ignores h 2) :
    Ignores (fun s => f s >>= fun s => g s >>= h) 0 :=
  hf.comp hef ((hg.extend heg 1).comp (heg.extend 1) hh)

/-- The left operand is rewritten before the right one is pushed. -/
theorem Ignores.rewriteBinary {f o g h : Program ε α μ}
    (hf : Ignores f 0) (hef : HasEffect f 0 1)
    (ho : Ignores o 1) (heo : HasEffect o 1 1)
    (hg : Ignores g 0) (heg : HasEffect g 0 1) (hh : Ignores h 2) :
    Ignores (fun s => f s >>= fun s => o s >>= fun s => g s >>= h) 0 :=
  hf.comp hef (ho.comp heo ((hg.extend heg 1).comp (heg.extend 1) hh))

/-- Once the side state is overwritten, the rest of the run is the same. -/
theorem Overwrites.comp {f g : Program ε α μ} {n : Nat} (hf : Overwrites f n) :
    Overwrites (fun s => f s >>= g) n := by
  intro top htop side side'
  show f (top, side) >>= g = f (top, side') >>= g
  rw [hf top htop side side']

theorem Ignores.comp_overwrites {f g : Program ε α μ} {n k : Nat}
    (hf : Ignores f n) (he : HasEffect f n k) (hg : Overwrites g k) :
    Overwrites (fun s => f s >>= g) n := by
  intro top htop side side'
  show f (top, side) >>= g = f (top, side') >>= g
  rw [hf top htop side side']
  cases hrun : f (top, side) with
  | error e => rfl
  | ok s =>
      have hlen : s.1.length = k := he.length htop hrun
      exact hg s.1 hlen s.2 side'

/-!
## Conditions on the values

A condition on every value and on the side state that the program keeps.
-/

/-- From operands and a side state that meet the conditions, the program leaves
values and a side state that meet them. -/
def Maintains (p : α -> Prop) (q : μ -> Prop) (f : Program ε α μ) (n : Nat) : Prop :=
  forall top : List α, top.length = n -> (forall x, x ∈ top -> p x) ->
    forall side, q side -> forall s, f (top, side) = .ok s ->
      (forall x, x ∈ s.1 -> p x) ∧ q s.2

variable {p : α -> Prop} {q : μ -> Prop}

theorem maintains_skip (n : Nat) :
    Maintains p q (fun s : List α × μ => (.ok s : Except ε _)) n := by
  intro top _ htop side hside s hs
  cases hs
  exact ⟨htop, hside⟩

theorem maintains_fail (e : ε) (n : Nat) :
    Maintains p q (fun _ : List α × μ => .error e) n := by
  intro top _ _ side _ s hs
  cases hs

theorem Maintains.extend {f : Program ε α μ} {n k : Nat} (hf : Maintains p q f n)
    (he : HasEffect f n k) (j : Nat) : Maintains p q f (n + j) := by
  intro top htop hp side hq s hs
  have hsplit : top = top.take n ++ top.drop n := (List.take_append_drop n top).symm
  have htake : (top.take n).length = n := by
    rw [List.length_take]
    omega
  rw [hsplit, he.frame htake] at hs
  cases hrun : f (top.take n, side) with
  | error e =>
      rw [hrun] at hs
      cases hs
  | ok r =>
      rw [hrun] at hs
      cases hs
      have hr := hf _ htake (fun x hx => hp x (List.mem_of_mem_take hx)) side hq r hrun
      constructor
      · intro x hx
        rcases List.mem_append.mp hx with hx | hx
        · exact hr.left x hx
        · exact hp x (List.mem_of_mem_drop hx)
      · exact hr.right

theorem Maintains.comp {f g : Program ε α μ} {n k : Nat} (hf : Maintains p q f n)
    (he : HasEffect f n k) (hg : Maintains p q g k) :
    Maintains p q (fun s => f s >>= g) n := by
  intro top htop hp side hq s hs
  cases hrun : f (top, side) with
  | error e =>
      simp only [hrun] at hs
      cases hs
  | ok s' =>
      simp only [hrun] at hs
      have hlen : s'.1.length = k := he.length htop hrun
      have hr := hf top htop hp side hq s' hrun
      exact hg s'.1 hlen hr.left s'.2 hr.right s hs

theorem Maintains.binary {f g h : Program ε α μ}
    (hf : Maintains p q f 0) (hef : HasEffect f 0 1)
    (hg : Maintains p q g 0) (heg : HasEffect g 0 1) (hh : Maintains p q h 2) :
    Maintains p q (fun s => f s >>= fun s => g s >>= h) 0 :=
  hf.comp hef ((hg.extend heg 1).comp (heg.extend 1) hh)

/-- The left operand is rewritten before the right one is pushed. -/
theorem Maintains.rewriteBinary {f o g h : Program ε α μ}
    (hf : Maintains p q f 0) (hef : HasEffect f 0 1)
    (ho : Maintains p q o 1) (heo : HasEffect o 1 1)
    (hg : Maintains p q g 0) (heg : HasEffect g 0 1) (hh : Maintains p q h 2) :
    Maintains p q (fun s => f s >>= fun s => o s >>= fun s => g s >>= h) 0 :=
  hf.comp hef (ho.comp heo ((hg.extend heg 1).comp (heg.extend 1) hh))

/-!
## Operators on the stack alone

Most programs pop a fixed number of operands and push one result computed from
them.  Such a program has every property above.
-/

/-- The program replaces `n` operands by the result of `g` on them. -/
def IsOperator (f : Program ε α μ) (n : Nat) (g : List α -> Except ε α) : Prop :=
  forall top : List α, top.length = n -> forall stack side,
    f (top ++ stack, side) = (g top).map fun x => (x :: stack, side)

theorem IsOperator.on_nil {f : Program ε α μ} {n : Nat} {g : List α -> Except ε α}
    (hf : IsOperator f n g) {top : List α} (htop : top.length = n) (side : μ) :
    f (top, side) = (g top).map fun x => ([x], side) := by
  simpa using hf top htop [] side

theorem IsOperator.hasEffect {f : Program ε α μ} {n : Nat} {g : List α -> Except ε α}
    (hf : IsOperator f n g) : HasEffect f n 1 := by
  intro top htop side
  rw [hf.on_nil htop]
  constructor
  · intro stack
    rw [hf top htop]
    cases g top <;> rfl
  · intro s hs
    cases hrun : g top with
    | error e =>
        rw [hrun] at hs
        cases hs
    | ok x =>
        rw [hrun] at hs
        cases hs
        rfl

theorem IsOperator.ignores {f : Program ε α μ} {n : Nat} {g : List α -> Except ε α}
    (hf : IsOperator f n g) : Ignores f n := by
  intro top htop side side'
  rw [hf.on_nil htop, hf.on_nil htop]
  cases g top <;> rfl

theorem IsOperator.maintains {f : Program ε α μ} {n : Nat} {g : List α -> Except ε α}
    (hf : IsOperator f n g)
    (hg : forall top x, (forall y, y ∈ top -> p y) -> g top = .ok x -> p x) :
    Maintains p q f n := by
  intro top htop hp side hq s hs
  rw [hf.on_nil htop] at hs
  cases hrun : g top with
  | error e =>
      rw [hrun] at hs
      cases hs
  | ok x =>
      rw [hrun] at hs
      cases hs
      constructor
      · intro y hy
        rw [List.mem_singleton.mp hy]
        exact hg top x hp hrun
      · exact hq

/-!
## Programs that compute one value

The value, or the exception, is the same whatever the stack and the side state.
-/

/-- On any stack the program pushes the value of `r`, or fails as `r` does. -/
def Leaves (f : Program ε α μ) (r : Except ε α) : Prop :=
  forall stack side, (f (stack, side)).map Prod.fst = r.map fun x => x :: stack

theorem Leaves.ok {f : Program ε α μ} {x : α} (hf : Leaves f (.ok x)) (stack : List α)
    (side : μ) : exists side', f (stack, side) = .ok (x :: stack, side') := by
  have h := hf stack side
  cases hrun : f (stack, side) with
  | error e =>
      rw [hrun] at h
      cases h
  | ok s =>
      rw [hrun] at h
      have hs : s.1 = x :: stack := by simpa [Except.map] using h
      exact ⟨s.2, by rw [← hs]⟩

theorem Leaves.error {f : Program ε α μ} {e : ε} (hf : Leaves f (.error e))
    (stack : List α) (side : μ) : f (stack, side) = .error e := by
  have h := hf stack side
  cases hrun : f (stack, side) with
  | error e' =>
      rw [hrun] at h
      cases h
      rfl
  | ok s =>
      rw [hrun] at h
      cases h

theorem IsOperator.leaves {f : Program ε α μ} {g : List α -> Except ε α}
    (hf : IsOperator f 0 g) : Leaves f (g []) := by
  intro stack side
  have h := hf [] rfl stack side
  rw [List.nil_append] at h
  rw [h]
  cases g [] <;> rfl

theorem Leaves.comp {f h : Program ε α μ} {r : Except ε α} {g : List α -> Except ε α}
    (hf : Leaves f r) (hh : IsOperator h 1 g) :
    Leaves (fun s => f s >>= h) (r >>= fun x => g [x]) := by
  intro stack side
  cases r with
  | error e =>
      simp only [hf.error stack side]
      rfl
  | ok x =>
      rcases hf.ok stack side with ⟨side', hrun⟩
      have happly := hh [x] rfl stack side'
      simp only [hrun]
      show (h (x :: stack, side')).map Prod.fst = (g [x]).map _
      rw [List.singleton_append] at happly
      rw [happly]
      cases g [x] <;> rfl

theorem Leaves.binary {f g h : Program ε α μ} {r r' : Except ε α}
    {op : List α -> Except ε α} (hf : Leaves f r) (hg : Leaves g r')
    (hh : IsOperator h 2 op) :
    Leaves (fun s => f s >>= fun s => g s >>= h)
      (r >>= fun x => r' >>= fun y => op [y, x]) := by
  intro stack side
  cases r with
  | error e =>
      simp only [hf.error stack side]
      rfl
  | ok x =>
      rcases hf.ok stack side with ⟨side', hrun⟩
      simp only [hrun]
      show (g (x :: stack, side') >>= h).map Prod.fst =
        (r' >>= fun y => op [y, x]).map fun z => z :: stack
      cases r' with
      | error e =>
          rw [hg.error (x :: stack) side']
          rfl
      | ok y =>
          rcases hg.ok (x :: stack) side' with ⟨side'', hrun'⟩
          have happly := hh [y, x] rfl stack side''
          rw [hrun']
          show (h (y :: x :: stack, side'')).map Prod.fst = (op [y, x]).map _
          rw [show y :: x :: stack = [y, x] ++ stack from rfl, happly]
          cases op [y, x] <;> rfl

end StackEffect
end KeepGateway
