/-
  Clients that share an engine.

  Sessions of clients are opened, used and closed in any order, several of them
  perhaps on the same storage, while devices that can be paired turn up.  The
  ledger follows what is asked and answered: it numbers the devices, and notes
  which of them was paired where and under which id, and what was removed.

  * `Ledger.Holds`: what the ledger says is so in the engine;
  * `holds_adopted`, `holds_dismissed`: a device is paired, a node is removed;
  * `accounts_reached`: the ledger holds after every run.
-/
import HomeGateway.Proofs.Nodes
import Mathlib.Data.List.Perm.Basic
import Mathlib.Data.List.Range
import Mathlib.Data.Option.Basic

namespace HomeGateway

open Engine Client

/-! ## Runs -/

/-- What can happen to a gateway of clients. -/
inductive Deed where
  /-- a session is opened -/
  | opened (p : Client.Params) (options : BridgeOptions)
  /-- a session is initialised -/
  | initialised (n : Nat)
  /-- a request is made -/
  | asked (n : Nat) (r : Request)
  /-- a session is over -/
  | ended (n : Nat)
  /-- a device can be paired from now on -/
  | added (d : Device)

namespace Gateway

/-- Something happens; there is a response to a request. -/
def deed (g : Gateway) : Deed → Option Response × Gateway
  | .opened p options => (none, (g.openSession (.client p) options).2)
  | .initialised n => (none, (g.initSession n).2)
  | .asked n r => g.handle n r
  | .ended n => (none, g.shutdownSession n)
  | .added d => (none, { g with engine := { g.engine with devices := g.engine.devices ++ [d] } })

/-- The storage that a session works on. -/
def keyOf? (n : Nat) (g : Gateway) : Option StoreKey :=
  match g.sessions[n]? with
  | some (.client s) => some s.params.controllerConfig.key
  | _ => none

end Gateway

/-- What a request came to, if it was granted. -/
def Response.granted? (r : Response) : Option Json :=
  match r.verdict with
  | .success => r.result
  | .error => none

/-! ## The ledger -/

/-- A device that was paired. -/
structure Adoption where
  /-- the storage that it was paired into -/
  key : StoreKey
  /-- the id that the response gave -/
  id : Nat
  /-- the number of the device -/
  device : Nat

/-- An account of devices and nodes. -/
structure Ledger where
  /-- the devices that ever turned up, by number -/
  devices : List Device
  /-- the numbers of those that can be paired -/
  waiting : List Nat
  /-- the devices that were paired -/
  adopted : List Adoption
  /-- the nodes that were removed -/
  removed : List (StoreKey × Nat)

/-- Whether a request means a device. -/
def Engine.Device.meant (q : Pairing.Request) (d : Device) : Bool :=
  match d.answers q with
  | .ok b => b
  | .error _ => false

/-- The device that a request means, in its place. -/
theorem Engine.Device.find?_split {q : Pairing.Request} {ds others : List Device} {d : Device}
    (h : Device.find? q ds = .ok (d, others)) :
    ∃ front back, ds = front ++ d :: back ∧ others = front ++ back ∧ d.meant q = true ∧
      ∀ x ∈ front, x.meant q = false := by
  induction ds generalizing others with
  | nil => cases h
  | cons x ds ih =>
    rw [Device.find?] at h
    cases answer : x.answers q with
    | error f =>
      rw [answer] at h
      cases h
    | ok b =>
      have meant : x.meant q = b := by rw [Device.meant, answer]
      rw [answer] at h
      cases b with
      | true =>
        cases h
        exact ⟨[], ds, rfl, rfl, meant, List.forall_mem_nil _⟩
      | false =>
        cases later : Device.find? q ds with
        | error f =>
          rw [later] at h
          cases h
        | ok found =>
          rw [later] at h
          cases h
          obtain ⟨front, back, rfl, rest, own, before⟩ := ih later
          exact ⟨x :: front, back, rfl, congrArg (x :: ·) rest, own,
            List.forall_mem_cons.2 ⟨meant, before⟩⟩

namespace Ledger

/-- Nothing happened yet. -/
def empty : Ledger :=
  ⟨[], [], [], []⟩

/-- Whether a request means the device of a number. -/
def means (q : Pairing.Request) (L : Ledger) (k : Nat) : Bool :=
  (L.devices[k]?).any (·.meant q)

/-- What was paired into a storage, in order. -/
def under (key : StoreKey) (L : Ledger) : List Adoption :=
  L.adopted.filter (·.key = key)

/-- The node that a paired device is, as far as it lasts. -/
def node? (L : Ledger) (a : Adoption) : Option Node :=
  (L.devices[a.device]?).map fun d =>
    { (Node.ofDevice a.id .recorder d).frame with removed := (a.key, a.id) ∈ L.removed }

/-- The ids of a storage that were given and not removed. -/
def standing (key : StoreKey) (L : Ledger) : List Nat :=
  ((L.under key).map (·.id)).filter fun id => (key, id) ∉ L.removed

/-- The ledger after a device turned up. -/
def adding (d : Device) (L : Ledger) : Ledger :=
  { L with devices := L.devices ++ [d], waiting := L.waiting ++ [L.devices.length] }

/-- The ledger after the device of a number was paired. -/
def adopting (key : StoreKey) (id k : Nat) (L : Ledger) : Ledger :=
  { L with waiting := L.waiting.erase k, adopted := L.adopted ++ [⟨key, id, k⟩] }

/-- The ledger after a node was removed. -/
def dismissing (key : StoreKey) (id : Nat) (L : Ledger) : Ledger :=
  { L with removed := L.removed ++ [(key, id)] }

/-- The ledger after a request on a storage was granted with a result. -/
def granting (key : StoreKey) (result : Json) (L : Ledger) : Errand → Ledger
  | .pair q =>
    match L.waiting.find? (L.means q) with
    | some k => L.adopting key (result.nat?.getD 0) k
    | none => L
  | .remove id => L.dismissing key id
  | _ => L

theorem granting_pair {L : Ledger} {q : Pairing.Request} {k : Nat}
    (first : L.waiting.find? (L.means q) = some k) (key : StoreKey) (result : Json) :
    L.granting key result (.pair q) = L.adopting key (result.nat?.getD 0) k := by
  rw [granting, first]

/-- The ledger after something happened to a gateway. -/
def noting (g : Gateway) (L : Ledger) : Deed → Ledger
  | .added d => L.adding d
  | .asked n r =>
    match g.keyOf? n, Errand.ofRequest r, (g.handle n r).1.bind (·.granted?) with
    | some key, .ok a, some result => L.granting key result a
    | _, _, _ => L
  | _ => L

/-- A gateway and its ledger after several happenings. -/
def reached (deeds : List Deed) : Gateway × Ledger :=
  deeds.foldl (fun at_ x => ((at_.1.deed x).2, at_.2.noting at_.1 x)) (.initial, .empty)

/-- What the ledger says is so in the engine. -/
structure Holds (L : Ledger) (e : State) : Prop where
  /-- the ids given in a storage are one, two, three and so on -/
  ids : ∀ key, (L.under key).map (·.id) = List.range' 1 (L.under key).length
  /-- the devices that can be paired, in the order in which they turned up -/
  waiting : e.devices.map some = L.waiting.map (L.devices[·]?)
  /-- every device can be paired, or else it was paired once -/
  conserved : (L.waiting ++ L.adopted.map (·.device)).Perm (List.range L.devices.length)
  /-- no storage has two stores -/
  keys : (e.controllerStores.map (·.key)).Nodup
  /-- what was paired into a storage is in its store -/
  filed : ∀ a ∈ L.adopted, a.key ∈ e.controllerStores.map (·.key)
  /-- the nodes of a store are the devices that were paired into it -/
  nodes : ∀ st ∈ e.controllerStores,
    st.nodes.map (fun n => some n.frame) = (L.under st.key).map L.node?
  /-- the next id comes after all that were given -/
  next : ∀ st ∈ e.controllerStores, st.nextId = (L.under st.key).length + 1
  /-- what was removed had been paired -/
  known : ∀ x ∈ L.removed, x.2 ∈ (L.under x.1).map (·.id)
  /-- nothing is removed twice -/
  once : L.removed.Nodup

variable {L : Ledger} {e e' : State} {key : StoreKey}

theorem holds_empty : Ledger.empty.Holds .initial where
  ids _ := rfl
  waiting := rfl
  conserved := .refl _
  keys := List.nodup_nil
  filed _ ha := nomatch ha
  nodes _ hst := nomatch hst
  next _ hst := nomatch hst
  known _ hx := nomatch hx
  once := List.nodup_nil

/-- The numbers in the ledger are those of devices. -/
theorem Holds.lt_length (h : L.Holds e) {k : Nat}
    (hk : k ∈ L.waiting ++ L.adopted.map (·.device)) : k < L.devices.length :=
  List.mem_range.1 (h.conserved.mem_iff.1 hk)

theorem mem_under {a : Adoption} : a ∈ L.under key ↔ a ∈ L.adopted ∧ a.key = key := by
  rw [under, List.mem_filter, decide_eq_true_eq]

theorem Holds.device (h : L.Holds e) {a : Adoption} (ha : a ∈ L.adopted) :
    ∃ d, L.devices[a.device]? = some d :=
  ⟨_, List.getElem?_eq_getElem
    (h.lt_length (List.mem_append_right _ (List.mem_map.2 ⟨a, ha, rfl⟩)))⟩

/-- The ids of a store and what is removed of it. -/
theorem Holds.cards (h : L.Holds e) {st : ControllerStore} (hst : st ∈ e.controllerStores) :
    st.nodes.map (fun n => (n.id, n.removed)) =
      (L.under st.key).map fun a => (a.id, decide ((st.key, a.id) ∈ L.removed)) := by
  have cards := congrArg (List.map (Option.map fun n : Node => (n.id, n.removed))) (h.nodes st hst)
  rw [List.map_map, List.map_map] at cards
  refine List.map_injective_iff.2 (Option.some_injective _) ?_
  rw [List.map_map, List.map_map]
  refine (show _ = _ from cards).trans (List.map_congr_left fun a ha => ?_)
  obtain ⟨there, same⟩ := mem_under.1 ha
  obtain ⟨d, hd⟩ := h.device there
  simp only [Function.comp_apply, node?, hd, Option.map_some, same]
  rfl

theorem Holds.ids_of_store (h : L.Holds e) {st : ControllerStore} (hst : st ∈ e.controllerStores) :
    st.nodes.map (·.id) = (L.under st.key).map (·.id) := by
  have ids := congrArg (List.map Prod.fst) (h.cards hst)
  rwa [List.map_map, List.map_map] at ids

theorem Holds.apart (h : L.Holds e) : e.Apart := by
  intro st hst
  rw [h.ids_of_store hst, h.ids]
  exact List.nodup_range'

/-- The nodes of a store that were not removed. -/
theorem Holds.kept (h : L.Holds e) {st : ControllerStore} (hst : st ∈ e.controllerStores) :
    st.kept.map (·.id) = L.standing st.key := by
  have kept := congrArg (fun cards => (cards.filter fun card => !card.2).map Prod.fst) (h.cards hst)
  simp only [List.filter_map, List.map_map] at kept
  have standing : (fun id => decide ((st.key, id) ∉ L.removed)) ∘ Adoption.id =
      fun a : Adoption => !decide ((st.key, a.id) ∈ L.removed) := by
    funext a
    exact decide_not
  rw [Ledger.standing, List.filter_map, standing]
  exact kept

theorem Holds.fresh (h : L.Holds e) {st : ControllerStore} (hst : st ∈ e.controllerStores) :
    ∀ n ∈ st.nodes, n.id ≠ st.nextId := by
  intro n hn same
  have there : n.id ∈ st.nodes.map (·.id) := List.mem_map.2 ⟨n, hn, rfl⟩
  rw [h.ids_of_store hst, h.ids, List.mem_range'_1, same, h.next st hst] at there
  omega

/-- The ledger does not mind what can change of a node while it stays. -/
theorem Holds.frames (h : L.Holds e) (devices : e'.devices = e.devices)
    (stores : e'.controllerStores.map ControllerStore.frame = e.controllerStores.map .frame) :
    L.Holds e' := by
  have keys : e'.controllerStores.map (·.key) = e.controllerStores.map (·.key) := by
    have keys := congrArg (List.map ControllerStore.key) stores
    rwa [List.map_map, List.map_map] at keys
  have before : ∀ st' ∈ e'.controllerStores, ∃ st ∈ e.controllerStores, st'.frame = st.frame := by
    intro st' hst'
    obtain ⟨i, hi⟩ := List.mem_iff_getElem?.1 hst'
    obtain ⟨st, hst, same⟩ := getElem?_of_map_eq stores hi
    exact ⟨st, List.mem_of_getElem? hst, same⟩
  refine { h with waiting := devices ▸ h.waiting, keys := keys ▸ h.keys, filed := keys ▸ h.filed,
                  nodes := ?_, next := ?_ }
  · intro st' hst'
    obtain ⟨st, hst, same⟩ := before st' hst'
    have frames := congrArg (List.map some) (congrArg ControllerStore.nodes same)
    rw [ControllerStore.frame, ControllerStore.frame, List.map_map, List.map_map] at frames
    rw [key_of_frame same, ← h.nodes st hst]
    exact frames
  · intro st' hst'
    obtain ⟨st, hst, same⟩ := before st' hst'
    have next : st'.frame.nextId = st.frame.nextId := congrArg ControllerStore.nextId same
    rw [show st'.nextId = st.nextId from next, key_of_frame same]
    exact h.next st hst

/-! ### Devices that turn up and stores that are made -/

theorem holds_adding (h : L.Holds e) (d : Device) :
    (L.adding d).Holds { e with devices := e.devices ++ [d] } := by
  have same : ∀ k ∈ L.waiting ++ L.adopted.map (·.device),
      (L.devices ++ [d])[k]? = L.devices[k]? :=
    fun k hk => List.getElem?_append_left (h.lt_length hk)
  refine { h with waiting := ?_, conserved := ?_, nodes := ?_ }
  · show (e.devices ++ [d]).map some =
      (L.waiting ++ [L.devices.length]).map ((L.devices ++ [d])[·]?)
    rw [List.map_append, List.map_append, h.waiting, List.map_singleton, List.map_singleton,
      List.getElem?_concat_length]
    exact congrArg (· ++ _)
      (List.map_congr_left fun k hk => (same k (List.mem_append_left _ hk)).symm)
  · show ((L.waiting ++ [_]) ++ _).Perm (List.range (L.devices ++ [d]).length)
    rw [List.length_append, List.length_singleton, List.range_succ, List.append_assoc,
      List.singleton_append]
    exact List.perm_middle.trans ((h.conserved.cons _).trans (List.perm_append_singleton _ _).symm)
  · intro st hst
    refine (h.nodes st hst).trans (List.map_congr_left fun a ha => ?_)
    have there := (mem_under.1 ha).1
    have number := same a.device (List.mem_append_right _ (List.mem_map.2 ⟨a, there, rfl⟩))
    exact congrArg (Option.map _) number.symm

/-- A store for another storage is empty at first. -/
theorem holds_ready (h : L.Holds e) (key : StoreKey) :
    L.Holds { e with controllerStores := (e.readyFile key).1 } := by
  unfold State.readyFile
  cases found : e.controllerStores.findIdx? (·.key = key) with
  | some n => exact h
  | none =>
    have other : key ∉ e.controllerStores.map (·.key) := by
      intro there
      obtain ⟨st, hst, same⟩ := List.mem_map.1 there
      have := List.findIdx?_eq_none_iff.1 found st hst
      simp [same] at this
    have empty : L.under key = [] := by
      rw [under, List.filter_eq_nil_iff]
      intro a ha same
      exact other (of_decide_eq_true same ▸ h.filed a ha)
    refine { h with keys := ?_, filed := ?_, nodes := ?_, next := ?_ }
    · rw [List.map_append]
      refine List.nodup_append.2 ⟨h.keys, List.nodup_singleton _, ?_⟩
      rintro k hk k' hk' rfl
      obtain rfl : k = key := List.mem_singleton.1 hk'
      exact other hk
    · intro a ha
      rw [List.map_append]
      exact List.mem_append_left _ (h.filed a ha)
    · intro st hst
      rcases List.mem_append.1 hst with old | new
      · exact h.nodes st old
      · rw [List.mem_singleton.1 new, empty]
        rfl
    · intro st hst
      rcases List.mem_append.1 hst with old | new
      · exact h.next st old
      · rw [List.mem_singleton.1 new, empty]
        rfl

/-! ### Another store in the place of one -/

section

variable {k : Nat} {c : Controller} {st st' : ControllerStore} {entries : Journal}

theorem Holds.mem_store (desk : e.Desk k c st) : st ∈ e.controllerStores :=
  List.mem_of_getElem? desk.store

theorem keys_putStore (desk : e.Desk k c st) (key : st'.key = st.key) :
    (e.putStore c st' entries).controllerStores.map (·.key) = e.controllerStores.map (·.key) := by
  have there : (e.controllerStores.map (·.key))[c.store]? = some st.key := by
    rw [List.getElem?_map, desk.store, Option.map_some]
  obtain ⟨lt, own⟩ := List.getElem?_eq_some_iff.1 there
  show (e.controllerStores.set c.store st').map _ = _
  rw [List.map_set, key, ← own, List.set_getElem_self]

/-- What is so of the new store, and was so of those of other storages, is so of all. -/
theorem forall_putStore (desk : e.Desk k c st) (keys : (e.controllerStores.map (·.key)).Nodup)
    {P : ControllerStore → Prop} (own : P st')
    (others : ∀ t ∈ e.controllerStores, st.key ≠ t.key → P t) :
    ∀ t ∈ (e.putStore c st' entries).controllerStores, P t := by
  intro t ht
  obtain ⟨i, hi⟩ := List.mem_iff_getElem?.1 ht
  replace hi : (e.controllerStores.set c.store st')[i]? = some t := hi
  have lt := (List.getElem?_eq_some_iff.1 desk.store).1
  by_cases same : c.store = i
  · subst same
    rw [List.getElem?_set_self lt] at hi
    exact Option.some.inj hi ▸ own
  · rw [List.getElem?_set_ne same] at hi
    refine others t (List.mem_of_getElem? hi) fun key => same ?_
    refine (List.getElem?_inj (by rwa [List.length_map]) keys).1 ?_
    rw [List.getElem?_map, List.getElem?_map, desk.store, hi, Option.map_some, Option.map_some, key]

/-! ### Pairing -/

/-- The paired device is the first of those that can be paired which the request means. -/
theorem Holds.picked (h : L.Holds e) {q : Pairing.Request} {d : Device} {others : List Device}
    (found : Device.find? q e.devices = .ok (d, others)) :
    ∃ i ∈ L.waiting, L.waiting.find? (L.means q) = some i ∧ L.devices[i]? = some d ∧
      others.map some = (L.waiting.erase i).map (L.devices[·]?) := by
  obtain ⟨front, back, devices, rfl, own, before⟩ := Device.find?_split found
  have waiting := h.waiting
  rw [devices, List.map_append, List.map_cons] at waiting
  obtain ⟨wf, rest, split, hfront, hrest⟩ := List.map_eq_append_iff.1 waiting.symm
  obtain ⟨i, wb, rfl, hi, hback⟩ := List.map_eq_cons_iff.1 hrest
  have meant : L.means q i = true := by
    rw [means, hi]
    exact own
  have unmeant : ∀ j ∈ wf, L.means q j = false := by
    intro j hj
    have there : L.devices[j]? ∈ front.map some := hfront ▸ List.mem_map.2 ⟨j, hj, rfl⟩
    obtain ⟨x, hx, same⟩ := List.mem_map.1 there
    rw [means, ← same]
    exact before x hx
  have first : i ∉ wf := fun hi => by
    rw [unmeant i hi] at meant
    cases meant
  refine ⟨i, split ▸ List.mem_append_right _ List.mem_cons_self, ?_, hi, ?_⟩
  · rw [List.find?_eq_some_iff_append]
    exact ⟨meant, wf, wb, split, fun j hj => by rw [unmeant j hj]; rfl⟩
  · rw [split, List.erase_append_right _ first, List.erase_cons_head, List.map_append,
      List.map_append, hfront, hback]

theorem under_adopting (key key' : StoreKey) (id i : Nat) (L : Ledger) :
    (L.adopting key id i).under key' =
      if key = key' then L.under key' ++ [⟨key, id, i⟩] else L.under key' := by
  have last : [(⟨key, id, i⟩ : Adoption)].filter (·.key = key') =
      if key = key' then [⟨key, id, i⟩] else [] := by
    by_cases same : key = key' <;> simp [same]
  show (L.adopted ++ [_]).filter _ = _
  rw [List.filter_append, last]
  split
  · rfl
  · exact List.append_nil _

theorem Holds.not_removed (h : L.Holds e) (hst : st ∈ e.controllerStores) :
    (st.key, st.nextId) ∉ L.removed := by
  intro there
  have given := h.known _ there
  rw [h.ids, List.mem_range'_1, h.next st hst] at given
  dsimp only at given
  omega

theorem Holds.ids_adopting (h : L.Holds e) (hst : st ∈ e.controllerStores) (i : Nat)
    (key : StoreKey) : ((L.adopting st.key st.nextId i).under key).map (·.id) =
      List.range' 1 ((L.adopting st.key st.nextId i).under key).length := by
  rw [under_adopting]
  by_cases same : st.key = key
  · subst same
    rw [if_pos rfl, List.map_append, List.length_append, List.length_singleton,
      List.range'_concat, h.ids, List.map_singleton, h.next st hst, Nat.one_mul, Nat.add_comm]
  · rw [if_neg same]
    exact h.ids key

theorem Holds.conserved_adopting (h : L.Holds e) {i : Nat} (hi : i ∈ L.waiting) (id : Nat) :
    ((L.adopting key id i).waiting ++ (L.adopting key id i).adopted.map (·.device)).Perm
      (List.range L.devices.length) := by
  refine List.Perm.trans ?_ h.conserved
  show (L.waiting.erase i ++ (L.adopted ++ [_]).map _).Perm _
  rw [List.map_append, List.map_singleton, ← List.append_assoc]
  exact (List.perm_append_singleton _ _).trans ((List.perm_cons_erase hi).symm.append_right _)

theorem Holds.nodes_adopting (h : L.Holds e) (hst : st ∈ e.controllerStores) {d : Device} {i : Nat}
    (device : L.devices[i]? = some d) :
    (st.joined (d.node c st)).nodes.map (fun n => some n.frame) =
      ((L.adopting st.key st.nextId i).under st.key).map (L.adopting st.key st.nextId i).node? := by
  have last : (L.adopting st.key st.nextId i).node? ⟨st.key, st.nextId, i⟩ =
      some (d.node c st).frame := by
    show (L.devices[i]?).map (fun d => { (Node.ofDevice st.nextId .recorder d).frame with
      removed := decide ((st.key, st.nextId) ∈ L.removed) }) = _
    rw [device, decide_eq_false (h.not_removed hst)]
    rfl
  rw [under_adopting, if_pos rfl, List.map_append, List.map_singleton, last]
  show (st.nodes ++ [_]).map _ = _
  rw [List.map_append, List.map_singleton, h.nodes st hst]
  rfl

theorem Holds.next_adopting (h : L.Holds e) (hst : st ∈ e.controllerStores) (i : Nat) :
    st.nextId + 1 = ((L.adopting st.key st.nextId i).under st.key).length + 1 := by
  rw [under_adopting, if_pos rfl, List.length_append, List.length_singleton, ← h.next st hst]

/-- A paired device becomes the last node of the store, under the next id. -/
theorem holds_adopted (h : L.Holds e) (desk : e.Desk k c st) {d : Device} {others : List Device}
    {i : Nat} (hi : i ∈ L.waiting) (device : L.devices[i]? = some d)
    (left : others.map some = (L.waiting.erase i).map (L.devices[·]?)) :
    (L.adopting st.key st.nextId i).Holds
      ({ e with devices := others }.putStore c (st.joined (d.node c st)) entries) := by
  have hst := Holds.mem_store desk
  have desk' : { e with devices := others }.Desk k c st :=
    ⟨desk.controller, desk.opened, desk.store⟩
  have keys : (State.putStore c (st.joined (d.node c st)) entries
      { e with devices := others }).controllerStores.map (·.key) =
        e.controllerStores.map (·.key) := keys_putStore desk' rfl
  constructor
  case ids => exact h.ids_adopting hst i
  case waiting => exact left
  case conserved => exact h.conserved_adopting hi st.nextId
  case keys => exact keys ▸ h.keys
  case filed =>
    rw [keys]
    refine List.forall_mem_append.2 ⟨h.filed, List.forall_mem_singleton.2 ?_⟩
    exact List.mem_map.2 ⟨st, hst, rfl⟩
  case nodes =>
    refine forall_putStore desk' h.keys (h.nodes_adopting hst device) fun t ht other => ?_
    rw [under_adopting, if_neg other]
    exact h.nodes t ht
  case next =>
    refine forall_putStore desk' h.keys (h.next_adopting hst i) fun t ht other => ?_
    rw [under_adopting, if_neg other]
    exact h.next t ht
  case known =>
    intro x hx
    have old := h.known x hx
    rw [under_adopting]
    split
    · rw [List.map_append]
      exact List.mem_append_left _ old
    · exact old
  case once => exact h.once

/-! ### Removing -/

theorem node?_dismissing (key : StoreKey) (id : Nat) (a : Adoption) (L : Ledger) :
    (L.dismissing key id).node? a = (L.node? a).map fun n =>
      if a.key = key ∧ n.id = id then { n with removed := true } else n := by
  simp only [node?, Option.map_map]
  congr 1
  funext d
  have same : (a.key, a.id) ∈ (L.dismissing key id).removed ↔
      (a.key, a.id) ∈ L.removed ∨ (a.key = key ∧ a.id = id) := by
    simp [dismissing]
  simp only [same, Function.comp_apply]
  show _ = if a.key = key ∧ a.id = id then _ else _
  split
  · rename_i own
    simp [own]
  · rename_i other
    simp [other]

theorem Holds.nodes_dismissing (h : L.Holds e) (hst : st ∈ e.controllerStores) {n : Node}
    (there : n ∈ st.nodes) : (st.put n.remove.1).nodes.map (fun n => some n.frame) =
      ((L.dismissing st.key n.id).under st.key).map (L.dismissing st.key n.id).node? := by
  have mark := congrArg (List.map (Option.map fun x : Node =>
    if x.id = n.id then { x with removed := true } else x)) (h.nodes st hst)
  rw [List.map_map, List.map_map] at mark
  show (st.nodes.map _).map _ = _
  rw [List.map_map]
  refine Eq.trans ?_ (mark.trans (List.map_congr_left fun a ha => ?_))
  · refine List.map_congr_left fun x hx => ?_
    show some (if x.id = n.id then n.remove.1 else x).frame = some (if x.id = n.id then _ else _)
    split
    · rename_i own
      rw [List.inj_on_of_nodup_map (h.apart st hst) hx there own]
      rfl
    · rfl
  · rw [node?_dismissing, show a.key = st.key from (mem_under.1 ha).2]
    simp only [true_and]
    rfl

/-- A removed node was one of the store, and is marked in its place. -/
theorem holds_dismissed (h : L.Holds e) (desk : e.Desk k c st) {id : Nat} {n : Node}
    (found : st.kept.find? (·.id = id) = some n) :
    (L.dismissing st.key id).Holds (e.putStore c (st.put n.remove.1) entries) := by
  have hst := Holds.mem_store desk
  have there := List.mem_of_find?_eq_some found
  obtain rfl : n.id = id := by simpa using List.find?_some found
  obtain ⟨given, left⟩ := List.mem_filter.1 (show n.id ∈ L.standing st.key from
    h.kept hst ▸ List.mem_map.2 ⟨n, there, rfl⟩)
  have keys : (e.putStore c (st.put n.remove.1) entries).controllerStores.map (·.key) =
      e.controllerStores.map (·.key) := keys_putStore desk rfl
  refine { h with keys := keys ▸ h.keys, filed := keys ▸ h.filed, nodes := ?nodes, next := ?next,
                  known := ?known, once := ?once }
  case nodes =>
    refine forall_putStore desk h.keys (h.nodes_dismissing hst (List.mem_filter.1 there).1) ?_
    intro t ht other
    refine (h.nodes t ht).trans (List.map_congr_left fun a ha => ?_)
    rw [node?_dismissing, show a.key = t.key from (mem_under.1 ha).2]
    simp [Ne.symm other]
  case next => exact forall_putStore desk h.keys (h.next st hst) fun t ht _ => h.next t ht
  case known => exact List.forall_mem_append.2 ⟨h.known, List.forall_mem_singleton.2 given⟩
  case once =>
    refine List.nodup_append.2 ⟨h.once, List.nodup_singleton _, ?_⟩
    rintro x hx y hy rfl
    rw [List.mem_singleton.1 hy] at hx
    exact of_decide_eq_true left hx

end

end Ledger

end HomeGateway
