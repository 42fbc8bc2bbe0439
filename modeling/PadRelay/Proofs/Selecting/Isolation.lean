import PadRelay.Ini.Parser
import PadRelay.Proofs.Ini.Changed
import PadRelay.Proofs.Selecting.Keys

/-!
# PadRelay.Proofs.Selecting.Isolation

What a decision about an update depends on.

* `shouldProcess_iff`: a decision as three conditions.
* `Considered`: two configurations and two updates that are the same in what these look at.
* `shouldProcess_of_apart`: the keys of other machines are not among that.
* `Richer`: an update with more events, or on the air. `shouldProcess_mono`: it stays wanted.
-/

namespace PadRelay
namespace Selection

open Ini (Profile foldKey)
open Pad (Event Update)

/-! ## What is looked at -/

variable {p q : Profile} {name name' : String} {u v : Update}

/-- The rule of a section for updates without events. A number that cannot be read is zero. -/
def ruleOf (p : Profile) (name : String) : Int := (p.int? name nullUpdatesKey).getD 0

theorem shouldProcess_iff :
    shouldProcess p name u = true ↔
      p.hasSection name = true ∧
        presenceRule (ruleOf p name) u.now.isSome u.next.isSome = true ∧
        ∀ key, machineKey u.machine = some key →
          machineRule (p.get? name key) u.onairFlag = true := by
  rw [shouldProcess, ruleOf]
  cases machineKey u.machine with
  | none => simp
  | some key => simp

/-- The section is in both configurations or in none, with the same rule, and the machine's own key
has the same value there; the updates are of one machine, both on the air or not, with the same
events missing. -/
structure Considered (p q : Profile) (name name' : String) (u v : Update) : Prop where
  hasSection : p.hasSection name = q.hasSection name'
  rule : ruleOf p name = ruleOf q name'
  machine : u.machine = v.machine
  onair : u.onairFlag = v.onairFlag
  now : u.now.isSome = v.now.isSome
  next : u.next.isSome = v.next.isSome
  value : ∀ key, machineKey u.machine = some key → p.get? name key = q.get? name' key

theorem Considered.shouldProcess_eq (h : Considered p q name name' u v) :
    shouldProcess p name u = shouldProcess q name' v := by
  have hvalues : (∀ key, machineKey u.machine = some key →
        machineRule (p.get? name key) u.onairFlag = true) ↔
      ∀ key, machineKey u.machine = some key →
        machineRule (q.get? name' key) u.onairFlag = true := by
    refine forall₂_congr fun key hkey => ?_
    rw [h.value key hkey]
  rw [Bool.eq_iff_iff, shouldProcess_iff, shouldProcess_iff, hvalues, h.hasSection, h.rule,
    h.machine, h.onair, h.now, h.next]

/-! ## Keys of other machines -/

/-- The keys of some machines, in lowercase. -/
def LogKeyOf (machines : UInt32 → Prop) (key : String) : Prop :=
  ∃ m k, machines m ∧ machineKey m = some k ∧ foldKey k = key

/-- Where only the keys of some machines differ, so do only decisions about these machines. -/
theorem shouldProcess_of_apart {machines : UInt32 → Prop} (h : p.Apart (LogKeyOf machines) q)
    (hu : ∀ key, machineKey u.machine = some key → ¬ machines u.machine) :
    shouldProcess p name u = shouldProcess q name u := by
  have hrule : ¬ LogKeyOf machines (foldKey nullUpdatesKey) := by
    rintro ⟨m, k, -, hk, heq⟩
    exact foldKey_machineKey_ne hk heq
  refine Considered.shouldProcess_eq ⟨h.names name, ?_, rfl, rfl, rfl, rfl, fun key hkey => ?_⟩
  · rw [ruleOf, ruleOf, h.int?_eq name hrule]
  · refine h.values name key ?_
    rintro ⟨m, k, hm, hk, heq⟩
    rw [foldKey_machineKey_injective hk hkey heq] at hm
    exact hu key hkey hm

/-! ## More events -/

/-- The same machine, on the air if it was, and no event less. -/
structure Richer (u v : Update) : Prop where
  machine : u.machine = v.machine
  onair : u.onairFlag = true → v.onairFlag = true
  now : u.now.isSome = true → v.now.isSome = true
  next : u.next.isSome = true → v.next.isSome = true

theorem presenceRule_mono {rule : Int} {now next now' next' : Bool}
    (hnow : now = true → now' = true) (hnext : next = true → next' = true)
    (h : presenceRule rule now next = true) : presenceRule rule now' next' = true := by
  unfold presenceRule at h ⊢
  split_ifs at h ⊢ with h1 h2 h3
  · exact hnow h
  · exact hnext h
  · rw [Bool.and_eq_true] at h ⊢
    exact ⟨hnow h.1, hnext h.2⟩
  · rfl

theorem machineRule_mono {value : Option String} {onair onair' : Bool}
    (honair : onair = true → onair' = true) (h : machineRule value onair = true) :
    machineRule value onair' = true := by
  cases value with
  | none => rfl
  | some v =>
    simp only [machineRule] at h ⊢
    split_ifs at h ⊢ with hno hair
    · exact honair h
    · rfl

theorem shouldProcess_mono (huv : Richer u v) (h : shouldProcess p name u = true) :
    shouldProcess p name v = true := by
  rw [shouldProcess_iff] at h ⊢
  obtain ⟨hsection, hpresence, hmachine⟩ := h
  refine ⟨hsection, presenceRule_mono huv.now huv.next hpresence, fun key hkey => ?_⟩
  rw [← huv.machine] at hkey
  exact machineRule_mono huv.onair (hmachine key hkey)

theorem richer_now (u : Update) (e : Event) : Richer u { u with now := some e } :=
  ⟨rfl, id, fun _ => rfl, id⟩

theorem richer_next (u : Update) (e : Event) : Richer u { u with next := some e } :=
  ⟨rfl, id, id, fun _ => rfl⟩

theorem richer_onair (u : Update) : Richer u { u with onairFlag := true } :=
  ⟨rfl, fun _ => rfl, id, id⟩

/-- **A decision is about one machine.** It depends on nothing but the section's existence, its rule
and the value of the machine's own key, on the machine, whether it is on the air, and which events
there are. Machines 1, 2, 3 and from 101 on have a key, each its own in any case and none that of
the rule. So where only one machine's key differs, as when it is edited in sections or defaults,
decisions about other machines stay, and those about machines without a key stay whatever log keys
differ. An event more, or being on the air, makes no update unwanted. -/
theorem shouldProcess_isolated :
    (∀ {p q : Profile} {name name' : String} {u v : Update}, Considered p q name name' u v →
      shouldProcess p name u = shouldProcess q name' v) ∧
    (∀ m : UInt32, machineKey m = none ↔ m.toNat = 0 ∨ 4 ≤ m.toNat ∧ m.toNat ≤ 100) ∧
    (∀ {m n : UInt32} {key key' : String}, machineKey m = some key → machineKey n = some key' →
      foldKey key ≠ foldKey nullUpdatesKey ∧ (m ≠ n → key ≠ key' ∧ foldKey key ≠ foldKey key')) ∧
    (∀ {changed : String → Prop} {p q : Profile}, p.Edited changed q → p.Apart changed q) ∧
    (∀ {p q : Profile} {m : UInt32}, p.Apart (LogKeyOf (· = m)) q →
      ∀ name (u : Update), u.machine ≠ m → shouldProcess p name u = shouldProcess q name u) ∧
    (∀ {p q : Profile}, p.Apart (LogKeyOf fun _ => True) q →
      ∀ name (u : Update), u.machine.toNat = 0 ∨ 4 ≤ u.machine.toNat ∧ u.machine.toNat ≤ 100 →
        shouldProcess p name u = shouldProcess q name u) ∧
    (∀ {u v : Update}, Richer u v → ∀ (p : Profile) name,
      shouldProcess p name u = true → shouldProcess p name v = true) ∧
    ∀ (u : Update) (e : Event), Richer u { u with now := some e } ∧
      Richer u { u with next := some e } ∧ Richer u { u with onairFlag := true } := by
  refine ⟨fun h => h.shouldProcess_eq, machineKey_eq_none_iff, fun hkey hkey' => ?_,
    fun h => h.apart, fun h name u hu => shouldProcess_of_apart h fun _ _ => hu,
    fun h name u hu => shouldProcess_of_apart h fun key hkey => ?_,
    fun h p name => shouldProcess_mono h,
    fun u e => ⟨richer_now u e, richer_next u e, richer_onair u⟩⟩
  · refine ⟨foldKey_machineKey_ne hkey, fun hne => ⟨?_, ?_⟩⟩
    · rintro rfl
      exact hne (foldKey_machineKey_injective hkey hkey' rfl)
    · intro heq
      exact hne (foldKey_machineKey_injective hkey hkey' heq)
  · rw [(machineKey_eq_none_iff u.machine).mpr hu] at hkey
    cases hkey

/-- A default for the first machine is replaced by a value in the section, which only this machine
notices. The other update may also announce the next event, or come from a machine without a key. -/
theorem shouldProcess_isolated_of_replaced_default :
    let s := "[DEFAULT]\nMasterLog=no\n[Glasscoder]\nProcessNullUpdates=1\nVirtualLog101=onair"
    let t := "[DEFAULT]\n[Glasscoder]\nMASTERLOG: onair\nProcessNullUpdates=1\nVirtualLog101=onair"
    let options := [("processnullupdates", "1"), ("virtuallog101", "onair")]
    let p : Profile := ⟨⟨"DEFAULT", [("masterlog", "no")]⟩, [⟨"Glasscoder", options⟩]⟩
    let q : Profile := ⟨⟨"DEFAULT", []⟩, [⟨"Glasscoder", ("masterlog", "onair") :: options⟩]⟩
    let u := { Update.blank with machine := 101, onairFlag := true, now := some Event.blank }
    let v := { u with next := some Event.blank }
    let other := { Event.blank with title := some "T" }
    Ini.parse s = .ok p ∧ Ini.parse t = .ok q ∧ p.Edited (LogKeyOf (· = 1)) q ∧
      shouldProcess p "Glasscoder" { u with machine := 1 } = false ∧
      shouldProcess q "Glasscoder" { u with machine := 1 } = true ∧
      foldKey "MasterLog" ≠ foldKey "VirtualLog101" ∧
      shouldProcess q "Glasscoder" v = true ∧
      shouldProcess q "Glasscoder" { v with now := some other } = shouldProcess q "Glasscoder" v ∧
      shouldProcess p "Glasscoder" { u with machine := 4 } =
        shouldProcess q "Glasscoder" { u with machine := 4 } := by
  intro s t options p q u v other
  have hkey : LogKeyOf (· = 1) "masterlog" := ⟨1, "MasterLog", rfl, by decide, by decide⟩
  have hedited : p.Edited (LogKeyOf (· = 1)) q :=
    ⟨⟨rfl, .removed hkey .nil⟩, .cons ⟨rfl, .added hkey (.refl options)⟩ .nil⟩
  obtain ⟨hconsidered, -, hkeys, hapart, hother, hnone, hmore, hricher⟩ := shouldProcess_isolated
  have hwanted : shouldProcess p "Glasscoder" u = true := by decide +kernel
  have hall : p.Apart (LogKeyOf fun _ => True) q :=
    (hapart hedited).mono fun _ ⟨m, key, _, h⟩ => ⟨m, key, trivial, h⟩
  have hfirst : machineKey 1 = some "MasterLog" := rfl
  have hvirtual : machineKey 101 = some "VirtualLog101" := by decide +kernel
  have hp : Ini.parse s = .ok p := by decide +kernel
  have hq : Ini.parse t = .ok q := by decide +kernel
  refine ⟨hp, hq, hedited, by decide +kernel, by decide +kernel,
    ((hkeys hfirst hvirtual).2 (by decide)).2, ?_, ?_, ?_⟩
  · refine hmore (hricher u Event.blank).2.1 q "Glasscoder" ?_
    rw [← hother (hapart hedited) "Glasscoder" u (by decide)]
    exact hwanted
  · exact hconsidered ⟨rfl, rfl, rfl, rfl, rfl, rfl, fun _ _ => rfl⟩
  · exact hnone hall "Glasscoder" _ (.inr (by decide))

end Selection
end PadRelay
