import Mathlib.Data.List.Basic
import Mathlib.Logic.Nontrivial.Basic
import StatusBar.Config.Basic

/-!
# Lookups along a path

A lookup walks along one path, over one table after the other, and everything it says depends on the
value it comes to. `LeadsTo` is this walk as a relation, and the functions find what it leads to
(`find?_eq_some_iff`, `table?_eq_some_iff`). A walk along two paths joined with a slash is a walk
along the one and then along the other (`table?_append`).

A walk that does not come to a table ends there, and all queries for what is beyond answer alike:
nothing is there (`Misses`).
-/

namespace StatusBar

open Toml (Table Value)

namespace ConfigError

/-- The error is about this key at this path. -/
def Names (path key : String) : ConfigError → Prop
  | missingKey p k | invalidValue p k _ => p = path ∧ k = key
  | unreadable _ _ | malformed _ => False

/-- An error of a lookup that began at the end of a path, as it is told of the whole walk. -/
def below (path : String) : ConfigError → ConfigError
  | missingKey p k => missingKey (path ++ "/" ++ p) k
  | invalidValue p k reason => invalidValue (path ++ "/" ++ p) k reason
  | e => e

end ConfigError

namespace Config

/-- The parts of a path lead from a table to a value. All that comes before the value are tables. -/
inductive LeadsTo : Table → List String → Value → Prop where
  | entry {t key v} : Table.get? t key = some v → LeadsTo t [key] v
  | through {t part inner parts v} : Table.get? t part = some (.table inner) →
      LeadsTo inner parts v → LeadsTo t (part :: parts) v

/-- All queries answer that nothing is there. -/
structure Misses (c : Config) (path key : String) : Prop where
  hasTable : c.hasTable path = false
  has : c.has path key = false
  get {α : Type} (decoder : Decoder α) : c.get decoder path key = .error (.missingKey path key)
  getOr {α : Type} (decoder : Decoder α) (fallback : α) :
    c.getOr decoder path key fallback = .ok fallback

/-- The queries for one key agree on what is missing, and an error is about this key. -/
structure Concord (c : Config) (path key : String) {α : Type} (decoder : Decoder α) : Prop where
  has_iff : c.has path key = true ↔ ∀ p k, c.get decoder path key ≠ .error (.missingKey p k)
  getOr_eq (fallback : α) : c.getOr decoder path key fallback =
    if c.has path key then c.get decoder path key else .ok fallback
  /-- The fallback comes back, whatever it is, exactly if the key is missing. -/
  fallback_iff : Nontrivial α →
    ((∀ fallback, c.getOr decoder path key fallback = .ok fallback) ↔ c.has path key = false)
  names_get (e : ConfigError) : c.get decoder path key = .error e → e.Names path key
  names_getOr (fallback : α) (e : ConfigError) :
    c.getOr decoder path key fallback = .error e → e.Names path key

/-- Beyond the path, all queries are those of the table `t`. -/
structure GoesOn (c : Config) (path : String) (t : Table) : Prop where
  hasTable (rest : String) : c.hasTable (path ++ "/" ++ rest) = Config.hasTable { root := t } rest
  has (rest key : String) : c.has (path ++ "/" ++ rest) key = Config.has { root := t } rest key
  get {α : Type} (decoder : Decoder α) (rest key : String) :
    c.get decoder (path ++ "/" ++ rest) key =
      (Config.get { root := t } decoder rest key).mapError (.below path)
  getOr {α : Type} (decoder : Decoder α) (rest key : String) (fallback : α) :
    c.getOr decoder (path ++ "/" ++ rest) key fallback =
      (Config.getOr { root := t } decoder rest key fallback).mapError (.below path)

/-- The queries for one key have the same answers in both configurations. -/
structure AnswerAlike (path key : String) (c c' : Config) : Prop where
  has : c.has path key = c'.has path key
  get {α : Type} (decoder : Decoder α) : c.get decoder path key = c'.get decoder path key
  getOr {α : Type} (decoder : Decoder α) (fallback : α) :
    c.getOr decoder path key fallback = c'.getOr decoder path key fallback

/-- The parts of a path lead to the same value in both tables, or nowhere in both. -/
def LeadAlike (t t' : Table) (parts : List String) : Prop :=
  ∀ v, LeadsTo t parts v ↔ LeadsTo t' parts v

variable {c c' : Config} {path rest key : String} {t inner : Table} {v : Value}

/-! ### The walk -/

theorem LeadsTo.ne_nil {parts : List String} (h : LeadsTo t parts v) : parts ≠ [] := by
  cases h <;> exact List.cons_ne_nil _ _

/-- A path leads to one value at most. -/
theorem LeadsTo.unique {parts : List String} {v' : Value} (h : LeadsTo t parts v)
    (h' : LeadsTo t parts v') : v = v' := by
  induction h with
  | entry hget =>
    cases h' with
    | entry hget' => exact Option.some.inj (hget.symm.trans hget')
    | through _ hrest => exact absurd rfl hrest.ne_nil
  | through hget hrest ih =>
    cases h' with
    | entry _ => exact absurd rfl hrest.ne_nil
    | through hget' hrest' =>
      cases Option.some.inj (hget.symm.trans hget')
      exact ih hrest'

theorem table?_bind_eq_some_iff {found : Option Value} :
    (found.bind fun v => v.table?) = some t ↔ found = some (.table t) := by
  rcases found with _ | v
  · simp
  · cases v <;> simp [Value.table?]

theorem follow_cons (t : Table) (part : String) (parts : List String) :
    follow t (part :: parts) =
      ((Table.get? t part).bind fun v => v.table?).bind (follow · parts) := by
  simp [follow, Option.bind_assoc]

theorem follow_cons_eq_some_iff {part : String} {parts : List String} :
    follow t (part :: parts) = some inner ↔
      ∃ first, Table.get? t part = some (.table first) ∧ follow first parts = some inner := by
  simp only [follow_cons, Option.bind_eq_some_iff (f := (follow · parts)), table?_bind_eq_some_iff]

theorem follow_singleton_eq_some_iff :
    follow t [key] = some inner ↔ Table.get? t key = some (.table inner) := by
  have hlast : follow t [key] = (Table.get? t key).bind fun v => v.table? := by
    rw [follow_cons]
    exact Option.bind_fun_some _
  rw [hlast, table?_bind_eq_some_iff]

theorem follow_append (t : Table) (parts rest : List String) :
    follow t (parts ++ rest) = (follow t parts).bind (follow · rest) := by
  induction parts generalizing t with
  | nil => rfl
  | cons part parts ih => simp [follow, ih, Option.bind_assoc]

/-- The last step of a walk is taken in the table that the other steps lead to. -/
theorem leadsTo_concat_iff {parts : List String} :
    LeadsTo t (parts ++ [key]) v ↔
      ∃ inner, follow t parts = some inner ∧ Table.get? inner key = some v := by
  induction parts generalizing t with
  | nil =>
    constructor
    · intro h
      cases h with
      | entry hget => exact ⟨t, rfl, hget⟩
      | through _ hrest => exact absurd rfl hrest.ne_nil
    · rintro ⟨_, ⟨⟩, hget⟩
      exact .entry hget
  | cons part parts ih =>
    have hwalk : LeadsTo t (part :: (parts ++ [key])) v ↔
        ∃ first, Table.get? t part = some (.table first) ∧ LeadsTo first (parts ++ [key]) v := by
      constructor
      · intro h
        generalize hrest : parts ++ [key] = rest at h
        cases h with
        | entry _ => simp at hrest
        | through hget hrest => exact ⟨_, hget, hrest⟩
      · rintro ⟨first, hget, hrest⟩
        exact .through hget hrest
    rw [List.cons_append, hwalk]
    simp only [ih, follow_cons_eq_some_iff]
    constructor
    · rintro ⟨first, hget, inner, hfollow, hlast⟩
      exact ⟨inner, ⟨first, hget, hfollow⟩, hlast⟩
    · rintro ⟨inner, ⟨first, hget, hfollow⟩, hlast⟩
      exact ⟨first, hget, inner, hfollow, hlast⟩

/-- The value at a key is what the path leads to with the key at its end. -/
theorem find?_eq_some_iff :
    c.find? path key = some v ↔ LeadsTo c.root (Text.split '/' path ++ [key]) v := by
  rw [leadsTo_concat_iff, find?, Option.bind_eq_bind, Option.bind_eq_some_iff]
  rfl

theorem follow_eq_some_iff {parts : List String} (h : parts ≠ []) :
    follow t parts = some inner ↔ LeadsTo t parts (.table inner) := by
  rw [← List.dropLast_append_getLast h, follow_append, leadsTo_concat_iff, Option.bind_eq_some_iff]
  simp only [follow_singleton_eq_some_iff]

/-- The table at a path is the value the path leads to, if that is a table. -/
theorem table?_eq_some_iff :
    c.table? path = some t ↔ LeadsTo c.root (Text.split '/' path) (.table t) :=
  follow_eq_some_iff (by simp [Text.split, Text.splitChars_ne_nil])

/-- Beyond a value that is no table there is nothing. -/
theorem table?_eq_none_of_leadsTo {stretch : List String}
    (hstretch : stretch <+: Text.split '/' path) (hlead : LeadsTo c.root stretch v)
    (hv : v.table? = none) : c.table? path = none := by
  have hend : follow c.root stretch = none := by
    rw [Option.eq_none_iff_forall_ne_some]
    intro inner hinner
    obtain rfl := hlead.unique ((follow_eq_some_iff hlead.ne_nil).mp hinner)
    cases hv
  obtain ⟨rest, hrest⟩ := hstretch
  rw [table?, ← hrest, follow_append, hend]
  rfl

/-! ### Joined paths -/

/-- What lies below a path is looked up from the table at its end. -/
theorem table?_append (c : Config) (path rest : String) :
    c.table? (path ++ "/" ++ rest) = (c.table? path).bind fun t => table? { root := t } rest := by
  have hsplit : Text.split '/' (path ++ "/" ++ rest) = Text.split '/' path ++ Text.split '/' rest :=
    Text.split_append '/' path rest
  simp only [table?, hsplit, follow_append]

/-- A table below a path is a value of the table there that is itself a table. -/
theorem hasTable_append_iff (h : '/' ∉ key.toList) :
    c.hasTable (path ++ "/" ++ key) = true ↔
      ∃ t inner, c.table? path = some t ∧ Table.get? t key = some (.table inner) := by
  have hkey (t inner : Table) :
      table? { root := t } key = some inner ↔ Table.get? t key = some (.table inner) := by
    rw [table?, Text.split_of_not_mem h, follow_singleton_eq_some_iff]
  rw [hasTable, Option.isSome_iff_exists, table?_append]
  simp only [Option.bind_eq_some_iff, hkey]
  exact exists_comm

/-- From a table that a path leads to, the rest of a longer path leads on. -/
theorem find?_append (h : c.table? path = some t) (rest key : String) :
    c.find? (path ++ "/" ++ rest) key = find? { root := t } rest key := by
  simp only [find?, table?_append, h, Option.bind_some]

/-! ### Queries -/

theorem find?_of_hasTable_eq_false (h : c.hasTable path = false) (key : String) :
    c.find? path key = none := by
  have htable : c.table? path = none := by simpa [hasTable] using h
  rw [find?, htable]
  rfl

theorem misses_of_hasTable_eq_false (h : c.hasTable path = false) (key : String) :
    c.Misses path key where
  hasTable := h
  has := by rw [has, find?_of_hasTable_eq_false h]; rfl
  get decoder := by rw [get, find?_of_hasTable_eq_false h]
  getOr decoder fallback := by rw [getOr, find?_of_hasTable_eq_false h]

section Queries

variable {α : Type} (decoder : Decoder α) (fallback : α)

/-- A key is there unless a lookup says that it is missing, whatever type was asked for. -/
theorem has_iff_get_ne_missingKey :
    c.has path key = true ↔ ∀ p k, c.get decoder path key ≠ .error (.missingKey p k) := by
  unfold has get decode
  cases c.find? path key with
  | none => simp
  | some v => cases h : decoder v <;> simp [Except.mapError, h]

/-- A lookup with a fallback is one without, as long as the key is there. -/
theorem getOr_eq :
    c.getOr decoder path key fallback =
      if c.has path key then c.get decoder path key else .ok fallback := by
  unfold getOr has get
  cases c.find? path key <;> rfl

/-- The fallback comes back, whatever it is, if and only if the key is missing. -/
theorem forall_getOr_eq_ok_iff [Nontrivial α] :
    (∀ fallback, c.getOr decoder path key fallback = .ok fallback) ↔ c.has path key = false := by
  constructor
  · intro h
    obtain ⟨a, b, hab⟩ := exists_pair_ne α
    cases hhas : c.has path key with
    | false => rfl
    | true =>
      have ha := h a
      have hb := h b
      rw [getOr_eq, if_pos hhas] at ha hb
      exact absurd (Except.ok.inj (ha.symm.trans hb)) hab
  · intro h fallback
    rw [getOr_eq, h, if_neg Bool.false_ne_true]

/-- An error of a lookup has the path and the key that were asked for. -/
theorem names_of_get_eq_error {e : ConfigError} (h : c.get decoder path key = .error e) :
    e.Names path key := by
  unfold get decode at h
  split at h
  · cases h
    exact ⟨rfl, rfl⟩
  · rename_i v _
    cases hv : decoder v with
    | ok a => simp [Except.mapError, hv] at h
    | error m =>
      rw [hv] at h
      cases h
      exact ⟨rfl, rfl⟩

/-- A lookup below a path is one from the table there, except that its error has the whole path. -/
theorem get_append (h : c.table? path = some t) (rest key : String) :
    c.get decoder (path ++ "/" ++ rest) key =
      (get { root := t } decoder rest key).mapError (.below path) := by
  unfold get decode
  rw [find?_append h]
  cases find? { root := t } rest key with
  | none => rfl
  | some v => cases hv : decoder v <;> simp [Except.mapError, hv, ConfigError.below]

theorem getOr_append (h : c.table? path = some t) (rest key : String) :
    c.getOr decoder (path ++ "/" ++ rest) key fallback =
      (getOr { root := t } decoder rest key fallback).mapError (.below path) := by
  rw [getOr_eq, getOr_eq, get_append decoder h, has, has, find?_append h]
  split <;> rfl

/-- **All queries for one key are in concord.** -/
theorem concord (c : Config) (path key : String) : c.Concord path key decoder where
  has_iff := has_iff_get_ne_missingKey decoder
  getOr_eq := getOr_eq decoder
  fallback_iff _ := forall_getOr_eq_ok_iff decoder
  names_get _ := names_of_get_eq_error decoder
  names_getOr fallback e h := by
    rw [getOr_eq] at h
    split at h
    · exact names_of_get_eq_error decoder h
    · cases h

end Queries

/-- **Beyond a path, all queries are those of the table it leads to.** -/
theorem goesOn (h : c.table? path = some t) : c.GoesOn path t where
  hasTable rest := by rw [hasTable, hasTable, table?_append, h, Option.bind_some]
  has rest key := by rw [has, has, find?_append h]
  get decoder rest key := get_append decoder h rest key
  getOr decoder rest key fallback := getOr_append decoder fallback h rest key

/-! ### What the answers depend on -/

theorem LeadAlike.hasTable (h : LeadAlike c.root c'.root (Text.split '/' path)) :
    c.hasTable path = c'.hasTable path := by
  have htable : c.table? path = c'.table? path := by
    apply Option.ext
    intro t
    rw [table?_eq_some_iff, table?_eq_some_iff, h]
  rw [Config.hasTable, Config.hasTable, htable]

/-- Every answer depends only on where the path leads. -/
theorem LeadAlike.answerAlike (h : LeadAlike c.root c'.root (Text.split '/' path ++ [key])) :
    AnswerAlike path key c c' := by
  have hfind : c.find? path key = c'.find? path key := by
    apply Option.ext
    intro v
    rw [find?_eq_some_iff, find?_eq_some_iff, h]
  exact {
    has := by rw [has, has, hfind]
    get := fun decoder => by rw [get, get, hfind]
    getOr := fun decoder fallback => by rw [getOr, getOr, hfind] }

end Config

open Config

/-- **A lookup walks along one path, and all queries see what it comes to.** A path leads on from
the table that its first part leads to, and where there is no table everything beyond is missing.
The queries for a key agree on whether it is there, whatever type is asked for, and tell of no other
key. No value that lies elsewhere has a part in their answers. -/
theorem lookups_walk_one_path (c : Config) (path : String) :
    (∀ key, '/' ∉ key.toList →
      (c.hasTable (path ++ "/" ++ key) = true ↔
        ∃ t inner, c.table? path = some t ∧ Table.get? t key = some (.table inner))) ∧
    (∀ t, c.table? path = some t → c.GoesOn path t) ∧
    (c.hasTable path = false →
      ∀ key, c.Misses path key ∧ ∀ rest, c.Misses (path ++ "/" ++ rest) key) ∧
    (∀ stretch v, stretch <+: Text.split '/' path → LeadsTo c.root stretch v →
      v.table? = none → ∀ key, c.Misses path key) ∧
    (∀ key {α : Type} (decoder : Decoder α), c.Concord path key decoder) ∧
    ∀ c' : Config,
      (LeadAlike c.root c'.root (Text.split '/' path) → c.hasTable path = c'.hasTable path) ∧
      ∀ key, LeadAlike c.root c'.root (Text.split '/' path ++ [key]) →
        AnswerAlike path key c c' := by
  refine ⟨fun key => hasTable_append_iff, fun t => goesOn, ?_, ?_, ?_, ?_⟩
  · intro h key
    refine ⟨misses_of_hasTable_eq_false h key, fun rest => ?_⟩
    have htable : c.table? path = none := by simpa [hasTable] using h
    apply misses_of_hasTable_eq_false
    rw [hasTable, table?_append, htable]
    rfl
  · intro stretch v hstretch hlead hv key
    have htable : c.table? path = none := table?_eq_none_of_leadsTo hstretch hlead hv
    apply misses_of_hasTable_eq_false
    rw [hasTable, htable]
    rfl
  · intro key α decoder
    exact concord decoder c path key
  · intro c'
    exact ⟨LeadAlike.hasTable, fun key => LeadAlike.answerAlike⟩

/-- The number at `k` stands in the way of everything beyond it, and the other configuration differs
in a section of its own only. -/
theorem lookups_walk_one_path_number :
    let number : Toml.Value := .integer 3
    let config (other : Toml.Value) : Config :=
      { root := [("a", .table [("b", .table [("n", .integer 7)]), ("k", number)]), ("z", other)] }
    (config number).hasTable "a/b" = true ∧
      (config number).Misses "a/k/b" "n" ∧
      AnswerAlike "a/b" "n" (config number) (config (.table [])) ∧
      (config number).getOr .u32 "a/b" "n" 5 = .ok 7 ∧
      (config number).getOr .u32 "a/k/b" "n" 5 = .ok 5 := by
  intro number config
  obtain ⟨hsection, -⟩ := lookups_walk_one_path (config number) "a"
  obtain ⟨-, -, -, hstands, -⟩ := lookups_walk_one_path (config number) "a/k/b"
  obtain ⟨-, -, -, -, -, hother⟩ := lookups_walk_one_path (config number) "a/b"
  have hmisses : (config number).Misses "a/k/b" "n" := by
    refine hstands ["a", "k"] number ?_ (.through rfl (.entry rfl)) rfl "n"
    exact ⟨["b"], by decide +kernel⟩
  have hsplit : Text.split '/' "a/b" = ["a", "b"] := by decide +kernel
  have hfind (other : Toml.Value) : (config other).find? "a/b" "n" = some (.integer 7) := by
    rw [find?_eq_some_iff, hsplit]
    exact .through rfl (.through rfl (.entry rfl))
  have halike : LeadAlike (config number).root (config (.table [])).root
      (Text.split '/' "a/b" ++ ["n"]) := by
    intro v
    rw [← find?_eq_some_iff, ← find?_eq_some_iff, hfind, hfind]
  have hgetOr : (config number).getOr .u32 "a/b" "n" 5 = .ok 7 := by
    rw [getOr, hfind]
    rfl
  have htable : LeadsTo (config number).root (Text.split '/' "a")
      (.table [("b", .table [("n", .integer 7)]), ("k", number)]) := by
    rw [Text.split_of_not_mem (by decide)]
    exact .entry rfl
  refine ⟨?_, hmisses, (hother (config (.table []))).2 "n" halike, hgetOr, hmisses.getOr .u32 5⟩
  exact (hsection "b" (by decide)).mpr ⟨_, _, table?_eq_some_iff.mpr htable, rfl⟩

end StatusBar
