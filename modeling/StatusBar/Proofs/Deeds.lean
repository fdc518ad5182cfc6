import StatusBar.Proofs.MainThread

/-!
# What the main thread has done

The deeds of the main thread are counted by iterations: in each of them, what is done before an
update calls for it, an update that brings something new is told of (`Sound.matches`), and a failure
is the last thing that happens (`Sound.aborts`). A widget without a loop is updated once
(`Sound.deeds_of_static`).
-/

namespace StatusBar

namespace MainThread

variable {ω : Type}

/-! ### What is counted -/

/-- All that has been done, in order. -/
def deeds (t : MainThread ω) : List Deed := t.past.flatten ++ t.current

namespace Deed

def isBegun : Deed → Bool
  | began => true
  | _ => false

def isUpdate : Deed → Bool
  | updated _ => true
  | _ => false

def isEvent : Deed → Bool
  | looked (.ok true) => true
  | _ => false

/-- Whether an update has brought something new. -/
def isNews : Deed → Bool
  | updated (.ok true) => true
  | _ => false

def isTold : Deed → Bool
  | told => true
  | _ => false

/-- The failure of a look or an update. -/
def failure? : Deed → Option Failure
  | looked (.error p) => some (.panic p)
  | updated (.error f) => some f
  | _ => none

end Deed

/-- How often something of a kind has been done. -/
def count (t : MainThread ω) (kind : Deed → Bool) : Nat := t.deeds.countP kind

/-- What calls for an update. -/
def calls : Schedule → Deed → Bool
  | .static, _ => false
  | .interval _, deed => deed.isBegun
  | .event _, deed => deed.isEvent

theorem calls_failed (s : Schedule) (f : Failure) (effective : Bool) :
    calls s (.failed f effective) = false := by
  cases s <;> rfl

/-- In an iteration that has come to its end there is one update for each call, and one broadcast
for each update that has brought something new. -/
theorem IsRound.matches {s : Schedule} {ds : List Deed} (h : IsRound s ds) :
    ds.countP Deed.isUpdate = ds.countP (calls s) ∧
      ds.countP Deed.isTold = ds.countP Deed.isNews := by
  cases h with
  | idle n => exact ⟨rfl, rfl⟩
  | whole changed hloop =>
    cases s with
    | static => exact absurd rfl hloop
    | interval n | event n => cases changed <;> exact ⟨rfl, rfl⟩

/-- In the current iteration, an update or a broadcast may still be to come. -/
theorem Doing.matches {s : Schedule} (hloop : s ≠ .static) {ds : List Deed} {stage : Stage}
    (h : Doing (some s) ds stage) :
    ds.countP Deed.isUpdate + (if stage = .updating then 1 else 0) = ds.countP (calls s) ∧
      ds.countP Deed.isTold + (if stage = .telling then 1 else 0) = ds.countP Deed.isNews := by
  have hfails {f : Failure} {ds : List Deed} (h : Fails (some s) f ds) :
      ds.countP Deed.isUpdate = ds.countP (calls s) ∧
        ds.countP Deed.isTold = ds.countP Deed.isNews := by
    cases h with
    | look n p => exact ⟨rfl, rfl⟩
    | update s f =>
      cases s with
      | static => exact absurd rfl hloop
      | interval n | event n => exact ⟨rfl, rfl⟩
  cases stage with
  | asking => cases h.1
  | checking =>
    obtain ⟨_, _, -, rfl⟩ := h
    exact ⟨rfl, rfl⟩
  | pausing | sleeping =>
    rcases h with ⟨n, hs, rfl⟩ | ⟨n, changed, hs, rfl⟩
    · cases hs
      exact ⟨rfl, rfl⟩
    · cases hs
      cases changed <;> exact ⟨rfl, rfl⟩
  | waking | looking =>
    obtain ⟨n, hs, rfl⟩ := h
    cases hs
    exact ⟨rfl, rfl⟩
  | updating =>
    obtain ⟨s', hs, rfl⟩ := h
    cases hs
    cases s with
    | static => exact absurd rfl hloop
    | interval n | event n => exact ⟨rfl, rfl⟩
  | telling =>
    obtain ⟨s', changed, hs, htells, rfl⟩ := h
    cases hs
    cases s with
    | static => exact absurd rfl hloop
    | interval n | event n =>
      obtain rfl : changed = true := htells
      exact ⟨rfl, rfl⟩
  | failing f => exact hfails h
  | ended =>
    rcases h with h | ⟨f, effective, before, rfl, h⟩
    · cases h with
      | once changed => exact absurd rfl hloop
      | loop | idle n => exact ⟨rfl, rfl⟩
    · have hbefore := hfails h
      simpa [calls_failed, Deed.isUpdate, Deed.isTold, Deed.isNews] using hbefore

theorem countP_flatten_eq {rounds : List (List Deed)} {p q : Deed → Bool}
    (h : ∀ ds ∈ rounds, ds.countP p = ds.countP q) :
    rounds.flatten.countP p = rounds.flatten.countP q := by
  rw [List.countP_flatten, List.countP_flatten, List.map_congr_left h]

/-- **There are as many updates as calls for one, and as many broadcasts as updates with news**, but
for the one that is just to come. -/
theorem Sound.matches {t : MainThread ω} (h : t.Sound) {s : Schedule} (hs : t.schedule = some s)
    (hloop : s ≠ .static) :
    t.count Deed.isUpdate + (if t.stage = .updating then 1 else 0) = t.count (calls s) ∧
      t.count Deed.isTold + (if t.stage = .telling then 1 else 0) = t.count Deed.isNews := by
  have hround (ds : List Deed) (hds : ds ∈ t.past) : IsRound s ds := by
    obtain ⟨s', hs', hround⟩ := h.past ds hds
    rw [hs] at hs'
    cases hs'
    exact hround
  have hdoing := h.doing
  rw [hs] at hdoing
  obtain ⟨hupdate, htold⟩ := hdoing.matches hloop
  have hupdates := countP_flatten_eq fun ds hds => (hround ds hds).matches.1
  have htolds := countP_flatten_eq fun ds hds => (hround ds hds).matches.2
  simp only [count, deeds, List.countP_append]
  omega

/-! ### Once -/

/-- A widget without a loop is updated once, which is told of unless it fails. -/
theorem Sound.deeds_of_static {t : MainThread ω} (h : t.Sound) (hs : t.schedule = some .static)
    (hended : t.stage = .ended) :
    (∃ changed, t.deeds = [.updated (.ok changed), .told]) ∨
      ∃ f effective, t.deeds = [.updated (.error f), .failed f effective] := by
  have hpast : t.past = [] := by
    apply List.eq_nil_iff_forall_not_mem.mpr
    intro ds hds
    obtain ⟨s, hs', hround⟩ := h.past ds hds
    rw [hs] at hs'
    cases hs'
    exact hround.ne_static rfl
  have hdeeds : t.deeds = t.current := by rw [deeds, hpast]; rfl
  have hdoing := h.doing
  rw [hs, hended] at hdoing
  rw [hdeeds]
  rcases hdoing with hleaves | ⟨f, effective, before, hcurrent, hfails⟩
  · generalize t.current = ds at hleaves
    cases hleaves with
    | once changed => exact .inl ⟨changed, rfl⟩
    | loop hloop => exact absurd rfl hloop
  · cases hfails with
    | update => exact .inr ⟨f, effective, hcurrent⟩

/-! ### Failures -/

/-- The thread has failed: nothing is done any more but to halt the module, and nothing is told. -/
structure Aborts (t : MainThread ω) (f : Failure) : Prop where
  last : t.stage = .failing f ∨ t.stage = .ended ∧ ∃ effective before,
    t.current = before ++ [.failed f effective] ∧ t.module.state = .halted ∧
      (effective = true → t.module.control.reason = some f.toError.message)
  silent : .told ∉ t.current

theorem failure?_front (s : Schedule) : ∀ d ∈ s.front, d.failure? = none := by
  cases s <;> simp [Schedule.front, Deed.failure?]

theorem failure?_whole (s : Schedule) (changed : Bool) :
    ∀ d ∈ s.whole changed, d.failure? = none := by
  have hfront := failure?_front s
  unfold Schedule.whole
  split <;> simpa [Deed.failure?, or_imp, forall_and] using hfront

/-- An iteration that goes on has not failed. -/
theorem IsRound.failure? {s : Schedule} {ds : List Deed} (h : IsRound s ds) :
    ∀ d ∈ ds, d.failure? = none := by
  cases h with
  | idle n => simp [Deed.failure?]
  | whole changed => exact failure?_whole s changed

theorem Leaves.failure? {s : Option Schedule} {ds : List Deed} (h : Leaves s ds) :
    ∀ d ∈ ds, d.failure? = none := by
  cases h with
  | once changed => exact failure?_whole _ changed
  | loop => exact nofun
  | idle n => simp [Deed.failure?]

/-- In what is done before a failure there is no other failure. -/
theorem Fails.eq_of_failure? {s : Option Schedule} {f f' : Failure} {ds : List Deed}
    (h : Fails s f ds) {d : Deed} (hd : d ∈ ds) (hf : d.failure? = some f') : f' = f := by
  cases h with
  | schedule p => cases hd
  | look n p =>
    simp only [List.mem_cons, List.not_mem_nil, or_false] at hd
    rcases hd with rfl | rfl
    · cases hf
    · exact (Option.some.inj hf).symm
  | update s f =>
    rcases List.mem_append.mp hd with hd | hd
    · rw [failure?_front s d hd] at hf
      cases hf
    · rw [List.mem_singleton.mp hd] at hf
      exact (Option.some.inj hf).symm

theorem Fails.told_not_mem {s : Option Schedule} {f : Failure} {ds : List Deed}
    (h : Fails s f ds) : .told ∉ ds := by
  cases h with
  | schedule p | look n p => simp
  | update s f => cases s <;> simp [Schedule.front]

/-- After a failure, the thread fails or has failed. -/
theorem Doing.failure? {s : Option Schedule} {ds : List Deed} {stage : Stage}
    (h : Doing s ds stage) {d : Deed} (hd : d ∈ ds) {f : Failure} (hf : d.failure? = some f) :
    (stage = .failing f ∧ Fails s f ds) ∨
      stage = .ended ∧ ∃ effective before, ds = before ++ [.failed f effective] ∧
        Fails s f before := by
  have hnone (h : ∀ d ∈ ds, d.failure? = none) : False := by
    rw [h d hd] at hf
    cases hf
  have hbegan : ∀ d ∈ [Deed.began], d.failure? = none := by simp [Deed.failure?]
  cases stage with
  | asking =>
    rw [h.2] at hd
    cases hd
  | checking =>
    obtain ⟨_, -, -, rfl⟩ := h
    cases hd
  | pausing | sleeping =>
    rcases h with ⟨n, -, rfl⟩ | ⟨n, changed, -, rfl⟩
    · exact (hnone hbegan).elim
    · exact (hnone (failure?_whole _ changed)).elim
  | waking | looking =>
    obtain ⟨n, -, rfl⟩ := h
    exact (hnone hbegan).elim
  | updating =>
    obtain ⟨s, -, rfl⟩ := h
    exact (hnone (failure?_front s)).elim
  | telling =>
    obtain ⟨s, changed, -, -, rfl⟩ := h
    refine (hnone ?_).elim
    have hfront := failure?_front s
    simpa [Deed.failure?, or_imp, forall_and] using hfront
  | failing f' =>
    obtain rfl := Fails.eq_of_failure? h hd hf
    exact .inl ⟨rfl, h⟩
  | ended =>
    rcases h with hleaves | ⟨f', effective, before, rfl, hfails⟩
    · exact (hnone hleaves.failure?).elim
    · rcases List.mem_append.mp hd with hd | hd
      · obtain rfl := hfails.eq_of_failure? hd hf
        exact .inr ⟨rfl, effective, before, rfl, hfails⟩
      · rw [List.mem_singleton.mp hd] at hf
        cases hf

/-- **A failure is the last thing that happens.** Whatever comes after one of the deeds has failed
is the halt. -/
theorem Sound.aborts {t : MainThread ω} (h : t.Sound) {d : Deed} (hd : d ∈ t.deeds) {f : Failure}
    (hf : d.failure? = some f) : t.Aborts f := by
  rcases List.mem_append.mp hd with hd | hd
  · obtain ⟨ds, hds, hd⟩ := List.mem_flatten.mp hd
    obtain ⟨s, -, hround⟩ := h.past ds hds
    rw [hround.failure? d hd] at hf
    cases hf
  · rcases h.doing.failure? hd hf with
      ⟨hstage, hfails⟩ | ⟨hstage, effective, before, hcurrent, hfails⟩
    · exact ⟨.inl hstage, hfails.told_not_mem⟩
    · have hhalted := h.halted f effective (by simp [hcurrent])
      refine ⟨.inr ⟨hstage, effective, before, hcurrent, hhalted⟩, ?_⟩
      rw [hcurrent]
      have htold := hfails.told_not_mem
      simp [htold]

end MainThread

end StatusBar
