/-
  Core/Revocation.lean --- presence tokens.

  The reader takes the token of a device when it admits a URB, and the task that
  completes the URB loads the token's flag up to three times.  A refresh that removes
  the device clears the flag; a device that comes back gets a new token, also where it
  comes back under its old id.  So a flag is set exactly as long as the device has
  stayed, and a task that looks at it after a removal answers `failed_urb`.
-/
import FarBus.Core.LeaseRuns

set_option autoImplicit false

namespace FarBus.Core

open FarBus.Foundation
open FarBus.Protocol

/-! ## The tokens of an inventory -/

namespace DeviceInventory

/-- A token of the table has its flag set, and is there for one device. -/
structure TokensLive (inventory : DeviceInventory) : Prop where
  set : ∀ (id : DeviceId) token, inventory.presence[id]? = some token →
    inventory.cells[token]? = some true
  unique : ∀ (id id' : DeviceId) token, inventory.presence[id]? = some token →
    inventory.presence[id']? = some token → id = id'

section

variable {self other : DeviceInventory}

theorem TokensLive.of_same (h : self.TokensLive) (presence : other.presence = self.presence)
    (cells : other.cells = self.cells) : other.TokensLive := by
  constructor
  · rw [presence, cells]
    exact h.set
  · rw [presence]
    exact h.unique

/-- A new token is behind all that were there. -/
theorem TokensLive.insert (h : self.TokensLive) (id : DeviceId)
    (presence : other.presence = self.presence.insert id self.cells.length)
    (cells : other.cells = self.cells ++ [true]) : other.TokensLive := by
  have hold : ∀ (id' : DeviceId) token, self.presence[id']? = some token →
      token < self.cells.length := by
    intro id' token htoken
    exact (List.getElem?_eq_some_iff.mp (h.set id' token htoken)).1
  constructor
  · intro id' token htoken
    rw [presence, lookup_insert] at htoken
    rw [cells]
    split at htoken
    · rw [← Option.some.inj htoken, List.getElem?_concat_length]
    · rw [List.getElem?_append_left (hold id' token htoken)]
      exact h.set id' token htoken
  · intro id₁ id₂ token htoken₁ htoken₂
    rw [presence, lookup_insert] at htoken₁ htoken₂
    split at htoken₁ <;> split at htoken₂
    · rename_i heq₁ heq₂
      rw [heq₁, heq₂]
    · have hlt := hold id₂ token htoken₂
      rw [← Option.some.inj htoken₁] at hlt
      exact absurd hlt (Nat.lt_irrefl _)
    · have hlt := hold id₁ token htoken₁
      rw [← Option.some.inj htoken₂] at hlt
      exact absurd hlt (Nat.lt_irrefl _)
    · exact h.unique id₁ id₂ token htoken₁ htoken₂

theorem TokensLive.revokeToken (h : self.TokensLive) (id : DeviceId) :
    (self.revokeToken id).TokensLive := by
  cases hgone : self.presence[id]? with
  | none =>
      refine h.of_same ?_ ?_
      · simp only [DeviceInventory.revokeToken, hgone]
      · simp only [DeviceInventory.revokeToken, hgone]
  | some gone =>
      have hpresence := revokeToken_presence self id
      have hcells : (self.revokeToken id).cells = self.cells.set gone false := by
        simp only [DeviceInventory.revokeToken, hgone]
      constructor
      · intro id' token htoken
        rw [hpresence] at htoken
        split at htoken
        · cases htoken
        · rename_i hne
          rw [hcells, List.getElem?_set_ne]
          · exact h.set id' token htoken
          · intro heq
            rw [← heq] at htoken
            exact hne (h.unique id' id gone htoken hgone)
      · intro id₁ id₂ token htoken₁ htoken₂
        rw [hpresence] at htoken₁ htoken₂
        split at htoken₁
        · cases htoken₁
        · split at htoken₂
          · cases htoken₂
          · exact h.unique id₁ id₂ token htoken₁ htoken₂

theorem TokensLive.removeDevice (h : self.TokensLive) (id : DeviceId) :
    (self.removeDevice id).TokensLive := by
  apply TokensLive.revokeToken
  exact h.of_same (removePresent_presence self id) (removePresent_cells self id)

theorem TokensLive.insertHost (h : self.TokensLive) (host : DeviceId × LocalDevice) :
    (self.insertHost host).TokensLive := by
  by_cases hmem : host.1 ∈ self.presence
  · refine h.of_same ?_ ?_
    · simp only [DeviceInventory.insertHost, if_pos hmem, insertPresent]
    · simp only [DeviceInventory.insertHost, if_pos hmem, insertPresent]
  · apply h.insert host.1
    · simp only [DeviceInventory.insertHost, if_neg hmem, insertPresent, insertToken]
    · simp only [DeviceInventory.insertHost, if_neg hmem, insertPresent, insertToken]

theorem TokensLive.refreshHosts (h : self.TokensLive) (scanned : List LocalDevice) :
    (self.refreshHosts scanned).2.TokensLive := by
  have hframe := scanFrame_foldl self scanned
  have hscan := h.of_same hframe.presence hframe.cells
  have hremoval : ∀ (removed : List DeviceId) (inventory : DeviceInventory),
      inventory.TokensLive → (removed.foldl DeviceInventory.removeDevice inventory).TokensLive := by
    intro removed
    induction removed with
    | nil => exact fun _ h => h
    | cons id removed ih => exact fun _ h => ih _ (h.removeDevice id)
  have hinsertion : ∀ (hosts : List (DeviceId × LocalDevice)) (inventory : DeviceInventory),
      inventory.TokensLive → (hosts.foldl DeviceInventory.insertHost inventory).TokensLive := by
    intro hosts
    induction hosts with
    | nil => exact fun _ h => h
    | cons host hosts ih => exact fun _ h => ih _ (h.insertHost host)
  exact hinsertion _ _ (hremoval _ _ hscan)

theorem tokensLive_new (devices : List LocalDevice) : (new devices).TokensLive := by
  have hempty : ({} : DeviceInventory).TokensLive := ⟨by simp, by simp⟩
  unfold new
  generalize ({} : DeviceInventory) = inventory at hempty ⊢
  induction devices generalizing inventory with
  | nil => exact hempty
  | cons device devices ih =>
      obtain ⟨-, hpresence, hcells, -, -⟩ := addInitial_tables inventory device
      exact ih _ (hempty.insert _ hpresence hcells)

theorem TokensLive.load (h : self.TokensLive) {id : DeviceId} {token : PresenceToken}
    (htoken : self.presence[id]? = some token) : self.load token = true := by
  unfold DeviceInventory.load
  rw [List.getD_eq_getElem?_getD, h.set id token htoken]
  rfl

end

end DeviceInventory

theorem DeviceInventory.not_load_of_revoked {inventory : DeviceInventory}
    {token : PresenceToken} (h : inventory.Revoked token) : inventory.load token = false := by
  unfold DeviceInventory.load
  rw [List.getD_eq_getElem?_getD, h]
  rfl

/-! ## Tokens over a run -/

section

variable {platform : Platform} {start w w' : World} {history later earlier : ServerHistory}
  {t : Transition World Action}

theorem tokensLive (hstart : World.Starting platform start)
    (run : World.Runs platform start history w) : w.server.devices.TokensLive :=
  devices_invariant _ DeviceInventory.tokensLive_new (fun _ scanned h => h.refreshHosts scanned)
    hstart run

theorem Unplugs.revoked {device : DeviceId} {presence : PresenceToken} (h : Unplugs device t)
    (taken : t.pre.step platform t.act = some t.post)
    (hformed : t.pre.server.devices.WellFormed)
    (htoken : t.pre.server.devices.presence[device]? = some presence) :
    t.post.server.devices.Revoked presence := by
  obtain ⟨scanned, hact, hremoved⟩ := h
  rw [hact] at taken
  rw [← Option.some.inj taken]
  exact (DeviceInventory.refreshHosts_spec _ scanned).revokes device hremoved presence htoken
    (hformed.flag device presence htoken)

theorem token_step {device : DeviceId} {presence : PresenceToken}
    (taken : t.pre.step platform t.act = some t.post) (hplugged : ¬ Unplugs device t)
    (htoken : t.pre.server.devices.presence[device]? = some presence) :
    t.post.server.devices.presence[device]? = some presence := by
  rcases World.step_devices taken with hsame | ⟨scanned, hact, hrefreshed⟩
  · rw [hsame]
    exact htoken
  · rw [hrefreshed]
    apply (DeviceInventory.refreshHosts_spec _ scanned).token device presence htoken
    exact fun hremoved => hplugged ⟨scanned, hact, hremoved⟩

theorem revoked_step {presence : PresenceToken} (taken : t.pre.step platform t.act = some t.post)
    (h : t.pre.server.devices.Revoked presence) : t.post.server.devices.Revoked presence := by
  rcases World.step_devices taken with hsame | ⟨scanned, -, hrefreshed⟩
  · rw [hsame]
    exact h
  · rw [hrefreshed]
    exact (DeviceInventory.refreshHosts_spec _ scanned).revoked presence h

/-- A token that was taken for a device is in the table as long as the device stays, and
revoked ever after. -/
theorem token_since (hstart : World.Starting platform start)
    (run : World.Runs platform start earlier w) {device : DeviceId} {token : PresenceToken}
    (htoken : w.server.devices.presence[device]? = some token)
    (since : World.Runs platform w later w') :
    (∀ u ∈ later, ¬ Unplugs device u) ∧ w'.server.devices.presence[device]? = some token ∨
      (∃ u ∈ later, Unplugs device u) ∧ w'.server.devices.Revoked token := by
  induction since with
  | nil => exact .inl ⟨by simp, htoken⟩
  | @snoc later pre post act since taken ih =>
      rcases ih with ⟨hplugged, hpre⟩ | ⟨⟨u, hu, hunplugs⟩, hrevoked⟩
      · by_cases hunplugs : Unplugs device ⟨pre, act, post⟩
        · have hformed := inventory_wellFormed hstart (run.trans since)
          exact .inr ⟨⟨_, List.mem_cons_self, hunplugs⟩, hunplugs.revoked taken hformed hpre⟩
        · refine .inl ⟨?_, token_step (t := ⟨pre, act, post⟩) taken hunplugs hpre⟩
          intro u hu
          rcases List.mem_cons.mp hu with rfl | hu
          · exact hunplugs
          · exact hplugged u hu
      · exact .inr ⟨⟨u, List.mem_cons_of_mem _ hu, hunplugs⟩,
          revoked_step (t := ⟨pre, act, post⟩) taken hrevoked⟩

theorem load_iff_plugged (hstart : World.Starting platform start)
    (run : World.Runs platform start earlier w) {device : DeviceId} {token : PresenceToken}
    (htoken : w.server.devices.presence[device]? = some token)
    (since : World.Runs platform w later w') :
    w'.server.devices.load token = true ↔ ∀ u ∈ later, ¬ Unplugs device u := by
  rcases token_since hstart run htoken since with
    ⟨hplugged, hpresence⟩ | ⟨⟨u, hu, hunplugs⟩, hrevoked⟩
  · have hload := (tokensLive hstart (run.trans since)).load hpresence
    exact ⟨fun _ => hplugged, fun _ => hload⟩
  · rw [DeviceInventory.not_load_of_revoked hrevoked]
    constructor
    · intro h
      cases h
    · intro hplugged
      exact absurd hunplugs (hplugged u hu)

/-- A device that was present stays so exactly as long as no refresh removes it. -/
theorem present_iff_plugged {device : DeviceId} (hpresent : device ∈ w.server.devices.present)
    (since : World.Runs platform w later w') :
    (∀ u ∈ later, device ∈ u.post.server.devices.present) ↔ ∀ u ∈ later, ¬ Unplugs device u := by
  constructor
  · intro hstays u hu hunplugs
    exact hunplugs.absent (since.taken_of_mem hu) (hstays u hu)
  · intro hplugged u hu
    refine ((since.maintained (fun w => device ∈ w.server.devices.present) hpresent ?_).2 u hu).2
    intro v hv taken hbefore
    rcases World.step_devices taken with hsame | ⟨scanned, hact, hrefreshed⟩
    · rw [hsame]
      exact hbefore
    · rw [hrefreshed]
      apply (DeviceInventory.refreshHosts_spec _ scanned).kept device hbefore
      exact fun hremoved => hplugged v hv ⟨scanned, hact, hremoved⟩

/-! ## The URB of a token -/

/-- In `t`, session `s` took the token of the device of `urb`. -/
def TokenTaken (s : Nat) (urb : UrbSubmit) (token : PresenceToken)
    (t : Transition World Action) : Prop :=
  (∃ owner, Enters s (.urbPresence urb owner) t) ∧
    t.pre.server.devices.presenceToken urb.deviceId = some token

/-- A task about to load the flag of its token. -/
def TaskPc.checksPresence : TaskPc → Bool
  | .start | .blocking _ | .recheck _ => true
  | _ => false

/-- In `t`, task `i` loads the flag of its token. -/
def ChecksPresence (i : Nat) (t : Transition World Action) : Prop :=
  ∃ io task, t.act = .task i io ∧ t.pre.tasks[i]? = some task ∧ task.pc.checksPresence = true

/-- In `t`, task `i` looks its device up in the inventory. -/
def LooksUp (i : Nat) (t : Transition World Action) : Prop :=
  ∃ io task, t.act = .task i io ∧ t.pre.tasks[i]? = some task ∧ task.pc = .snapshot

/-- A refresh with what the server scans: host devices. -/
def ScansHosts (t : Transition World Action) : Prop :=
  ∀ scanned, t.act = .refreshHostDevices scanned → ∀ device ∈ scanned, device.backend = .host

/-- In `t`, task `i` sends the completion of its URB. -/
def SendsCompletion (i : Nat) (task : Task) (complete : UrbComplete)
    (t : Transition World Action) : Prop :=
  (∃ io, t.act = .task i io) ∧ t.pre.tasks[i]? = some task ∧ task.pc = .sending complete

/-- Every URB past its token took it in an earlier step: the one that waits for a slot,
and the one of a task. -/
theorem tokenTaken (hstart : World.Starting platform start)
    (run : World.Runs platform start history w) :
    (∀ s session urb owner token, w.sessions[s]? = some session →
      session.pc = .urbSlot urb owner token → ∃ a ∈ history, TokenTaken s urb token a) ∧
    ∀ (i : Nat) (task : Task), w.tasks[i]? = some task →
      ∃ a ∈ history, TokenTaken task.session task.urb task.presence a := by
  induction run with
  | nil =>
      constructor
      · intro s session urb owner token mem
        cases hstart <;> cases mem
      · intro i task mem
        cases hstart <;> cases mem
  | @snoc history pre post act run taken ih =>
      obtain ⟨hslot, htask⟩ := ih
      have hlift : ∀ {s urb token}, (∃ a ∈ history, TokenTaken s urb token a) →
          ∃ a ∈ ⟨pre, act, post⟩ :: history, TokenTaken s urb token a := by
        intro s urb token h
        obtain ⟨a, ha, htaken⟩ := h
        exact ⟨a, List.mem_cons_of_mem _ ha, htaken⟩
      constructor
      · intro s session' urb owner token mem' hpc
        rcases World.step_session taken mem' with ⟨-, -, rfl⟩ | ⟨session, mem, hmove⟩
        · cases hpc
        · cases hmove with
          | kept quiet peer principal pc =>
              rw [pc] at hpc
              exact hlift (hslot s session urb owner token mem hpc)
          | recv msg hact pc result =>
              rw [result] at hpc
              unfold Session.dispatch at hpc
              split at hpc <;> (try split at hpc) <;> cases hpc
          | advance draw outcome hact entered result =>
              rw [result] at hpc
              cases entered with
              | urbPresent pc present =>
                  cases hpc
                  exact ⟨_, List.mem_cons_self, ⟨owner, draw, session, hact, mem, pc⟩, present⟩
              | _ => cases hpc
          | left quiet live peer principal pc =>
              rcases pc with pc | pc | pc <;> rw [pc] at hpc <;> cases hpc
      · intro i task mem
        rcases World.step_task taken mem with hbefore | ⟨before, io, pc, -, hbefore, -, rfl⟩ |
          ⟨s, draw, session, urb, owner, presence, -, found, pc, rfl⟩
        · exact hlift (htask i task hbefore)
        · exact hlift (htask i before hbefore)
        · exact hlift (hslot s session urb owner presence found pc)

/-- Where a task is that can come to nothing but `failed_urb`, with its token revoked. -/
def TaskPc.Failing (seq : UInt32) (pc : TaskPc) : Prop :=
  (∃ devices, pc = .blocking devices) ∨ pc = .recheck (failedUrb seq) ∨
    pc = .release (failedUrb seq) ∨ pc = .sending (failedUrb seq) ∨ pc = .finished

theorem Task.failing_of_check {task : Task} {server : ServerState} {io : TaskIo} {pc : TaskPc}
    (hload : server.devices.load task.presence = false) (hcheck : task.pc.checksPresence = true)
    (taken : task.advance server io = some pc) : pc.Failing task.urb.seq := by
  unfold Task.advance at taken
  cases hpc : task.pc with
  | start =>
      simp only [hpc, hload] at taken
      cases taken
      exact .inr (.inr (.inl rfl))
  | blocking devices =>
      simp only [hpc, hload] at taken
      cases taken
      exact .inr (.inl rfl)
  | recheck result =>
      simp only [hpc, hload] at taken
      cases taken
      exact .inr (.inr (.inl rfl))
  | _ =>
      rw [hpc] at hcheck
      cases hcheck

theorem Task.failing_step {task : Task} {server : ServerState} {io : TaskIo} {pc : TaskPc}
    (hload : server.devices.load task.presence = false) (h : task.pc.Failing task.urb.seq)
    (taken : task.advance server io = some pc) : pc.Failing task.urb.seq := by
  rcases h with ⟨devices, hpc⟩ | hpc | hpc | hpc | hpc
  · exact Task.failing_of_check hload (by rw [hpc]; rfl) taken
  · exact Task.failing_of_check hload (by rw [hpc]; rfl) taken
  · simp only [Task.advance, hpc] at taken
    cases taken
    exact .inr (.inr (.inr (.inl rfl)))
  · simp only [Task.advance, hpc] at taken
    cases taken
    exact .inr (.inr (.inr (.inr rfl)))
  · simp only [Task.advance, hpc] at taken
    cases taken

/-- A lookup that does not find an emulated device. -/
theorem Task.failing_of_lookup {task : Task} {server : ServerState} {io : TaskIo} {pc : TaskPc}
    (hformed : server.devices.WellFormed)
    (hhost : ∀ device, server.devices.present[task.urb.deviceId]? = some device →
      device.backend = .host)
    (hpc : task.pc = .snapshot) (taken : task.advance server io = some pc) :
    pc.Failing task.urb.seq := by
  unfold Task.advance at taken
  simp only [hpc] at taken
  split at taken
  · cases taken
    exact .inl ⟨_, rfl⟩
  · rename_i hbackend
    obtain ⟨device, hget, hemulated⟩ := hformed.find_snapshot hbackend
    rw [hhost device hget] at hemulated
    cases hemulated
  · cases taken
    exact .inr (.inr (.inl rfl))

/-- A task keeps all but its place in the code. -/
theorem same_task_run (since : World.Runs platform w later w') {i : Nat} {task : Task}
    (mem : w.tasks[i]? = some task) : ∃ pc, w'.tasks[i]? = some { task with pc } := by
  induction since with
  | nil => exact ⟨task.pc, mem⟩
  | snoc since taken ih =>
      obtain ⟨pc, hmem⟩ := ih
      obtain ⟨pc', hmem', -⟩ := World.step_task_next taken hmem
      exact ⟨pc', hmem'⟩

/-- Once its token is revoked, a failing task stays so. -/
theorem failing_run (since : World.Runs platform w later w') {i : Nat} {task : Task}
    (mem : w.tasks[i]? = some task) (hfailing : task.pc.Failing task.urb.seq)
    (hrevoked : w.server.devices.Revoked task.presence) :
    ∃ pc, w'.tasks[i]? = some { task with pc } ∧ pc.Failing task.urb.seq ∧
      w'.server.devices.Revoked task.presence := by
  induction since with
  | nil => exact ⟨task.pc, mem, hfailing, hrevoked⟩
  | @snoc later pre post act since taken ih =>
      obtain ⟨pc, hmem, hpc, hpre⟩ := ih
      have hpost := revoked_step (t := ⟨pre, act, post⟩) taken hpre
      obtain ⟨pc', hmem', hnext⟩ := World.step_task_next taken hmem
      refine ⟨pc', hmem', ?_, hpost⟩
      rcases hnext with ⟨-, rfl⟩ | ⟨io, -, hadvance⟩
      · exact hpc
      · have hload := DeviceInventory.not_load_of_revoked hpre
        exact @Task.failing_step { task with pc } pre.server io pc' hload hpc hadvance

theorem scanned_hosts {self : DeviceInventory} {scanned : List LocalDevice}
    (hscan : ∀ device ∈ scanned, device.backend = .host) {id : DeviceId}
    (hbefore : ∀ device, self.present[id]? = some device → device.backend = .host) :
    ∀ device, (self.refreshHosts scanned).2.present[id]? = some device →
      device.backend = .host := by
  have hhosts : ∀ host ∈ (scanned.foldl DeviceInventory.scanDevice { inventory := self }).nextHosts,
      host.2.backend = .host := by
    have hstart : ∀ host ∈ ({ inventory := self } : DeviceInventory.Scan).nextHosts,
        host.2.backend = .host := by simp
    generalize ({ inventory := self } : DeviceInventory.Scan) = scan at hstart ⊢
    induction scanned generalizing scan with
    | nil => exact hstart
    | cons device scanned ih =>
        apply ih (fun device' hmem => hscan device' (List.mem_cons_of_mem _ hmem))
        intro host hhost
        rcases List.mem_append.mp hhost with hhost | hhost
        · exact hstart host hhost
        · rw [List.mem_singleton] at hhost
          rw [hhost]
          exact hscan device List.mem_cons_self
  intro device hdevice
  rcases (DeviceInventory.refreshHosts_loops self scanned).present id with
    ⟨hsame, -⟩ | ⟨device', hmem, hlast⟩
  · rw [hsame] at hdevice
    split at hdevice
    · cases hdevice
    · exact hbefore device hdevice
  · rw [hlast, Option.some.injEq] at hdevice
    rw [← hdevice]
    exact hhosts _ hmem

/-- What comes back under the id of a removed device is a host device. -/
theorem hosts_since (since : World.Runs platform w later w') {device : DeviceId}
    (habsent : device ∉ w.server.devices.present) (hscans : ∀ u ∈ later, ScansHosts u) :
    ∀ found, w'.server.devices.present[device]? = some found → found.backend = .host := by
  refine (since.maintained (fun w => ∀ found, w.server.devices.present[device]? = some found →
    found.backend = .host) ?_ ?_).1
  · intro found hfound
    exact absurd ((mem_iff_lookup _ _).mpr ⟨found, hfound⟩) habsent
  · intro u hu taken hbefore
    rcases World.step_devices taken with hsame | ⟨scanned, hact, hrefreshed⟩
    · rw [hsame]
      exact hbefore
    · rw [hrefreshed]
      exact scanned_hosts (hscans u hu scanned hact) hbefore

/-- A refresh that removes the device clears the flag of the token taken for it before, if
it was not cleared already. -/
theorem revoked_of_unplugged (hstart : World.Starting platform start) {session : Nat}
    {urb : UrbSubmit} {presence : PresenceToken}
    (run : World.Runs platform start (later ++ t :: earlier) w)
    (htaken : ∃ a ∈ earlier, TokenTaken session urb presence a)
    (hunplugs : Unplugs urb.deviceId t) : w.server.devices.Revoked presence := by
  obtain ⟨runU, takenU, runLater⟩ := run.cut
  obtain ⟨a, ha, -, htoken⟩ := htaken
  obtain ⟨middle, first, rfl⟩ := List.append_of_mem ha
  obtain ⟨runA, takenA, runMiddle⟩ := runU.cut
  have runAll : World.Runs platform a.pre (later ++ t :: (middle ++ [a])) w := by
    have runHead := ((Run.snoc .nil takenA).trans runMiddle).snoc takenU
    exact runHead.trans runLater
  rcases token_since hstart runA htoken runAll with ⟨hplugged, -⟩ | ⟨-, hrevoked⟩
  · exact absurd hunplugs (hplugged t (List.mem_append_right _ List.mem_cons_self))
  · exact hrevoked

/-- A task that comes to fail in `t` and is sending in the end sends `failed_urb`. -/
theorem completion_of_failing (taken : t.pre.step platform t.act = some t.post)
    (since : World.Runs platform t.post later w) {i : Nat} {task before : Task} {io : TaskIo}
    {complete : UrbComplete} (mem : w.tasks[i]? = some task) (hpc : task.pc = .sending complete)
    (hrevoked : t.pre.server.devices.Revoked task.presence) (hact : t.act = .task i io)
    (found : t.pre.tasks[i]? = some before)
    (hadvances : ∀ pc, before.urb = task.urb → before.presence = task.presence →
      before.advance t.pre.server io = some pc → pc.Failing task.urb.seq) :
    complete = failedUrb task.urb.seq := by
  -- the task is the same all along
  obtain ⟨_, hsame⟩ := same_task_run (since.from_transition taken) found
  rw [mem, Option.some.injEq] at hsame
  obtain ⟨pc, hmem, hnext⟩ := World.step_task_next taken found
  rcases hnext with ⟨hother, -⟩ | ⟨io', hact', hadvance⟩
  · exact absurd hact (hother io)
  · cases hact.symm.trans hact'
    have hfailing := hadvances pc (by rw [hsame]) (by rw [hsame]) hadvance
    have hpost := revoked_step taken hrevoked
    rw [hsame] at hfailing hpost
    obtain ⟨pc', hmem', hfailing', -⟩ := failing_run since hmem hfailing hpost
    rw [mem, Option.some.injEq] at hmem'
    rw [hmem'] at hpc
    cases hpc
    rw [hsame]
    rcases hfailing' with ⟨devices, h⟩ | h | h | h | h
    · cases h
    · cases h
    · cases h
    · exact TaskPc.sending.inj h
    · cases h

/-- A flag that is cleared stays so. -/
theorem load_stays_cleared (hstart : World.Starting platform start)
    (run : World.Runs platform start earlier w) {device : DeviceId} {token : PresenceToken}
    (htoken : w.server.devices.presenceToken device = some token)
    (since : World.Runs platform w later w') (hmem : t ∈ later)
    (hload : t.pre.server.devices.load token = false) : w'.server.devices.load token = false := by
  obtain ⟨after, first, rfl⟩ := List.append_of_mem hmem
  have hbefore := load_iff_plugged hstart run htoken since.cut.1
  rw [Bool.eq_false_iff] at hload ⊢
  intro hset
  apply hload
  rw [hbefore]
  intro u hu
  apply (load_iff_plugged hstart run htoken since).mp hset
  exact List.mem_append_right _ (List.mem_cons_of_mem _ hu)

/-- Removal invalidates URBs in flight.  Every completion that a task sends is for a URB
whose token was taken before.  If a refresh has removed the device after that, and the
task loads the token's flag after the refresh, it sends `failed_urb`, whatever other
refreshes did in between; and where only host devices are scanned it does so also if
it looks the device up after the refresh.  A token that is taken for a device has its
flag set exactly as long as the device stays present, and a flag that is cleared stays
so. -/
theorem removal_invalidates_urbs (hstart : World.Starting platform start)
    (run : World.Runs platform start history w) :
    (∀ later x earlier, history = later ++ x :: earlier →
      ∀ i task complete, SendsCompletion i task complete x →
        (∃ a ∈ earlier, TokenTaken task.session task.urb task.presence a) ∧
        ∀ since v between u before, earlier = since ++ v :: (between ++ u :: before) →
          (∃ a ∈ before, TokenTaken task.session task.urb task.presence a) →
          Unplugs task.urb.deviceId u →
          (ChecksPresence i v ∨ LooksUp i v ∧ ∀ t ∈ between, ScansHosts t) →
          complete = failedUrb task.urb.seq) ∧
    ∀ since a before, history = since ++ a :: before →
      ∀ device token, a.pre.server.devices.presenceToken device = some token →
        (w.server.devices.load token = true ↔
          ∀ u ∈ since ++ [a], device ∈ u.post.server.devices.present) ∧
        ∀ u ∈ since ++ [a], u.pre.server.devices.load token = false →
          w.server.devices.load token = false := by
  constructor
  · intro later x earlier hcut i task complete hsends
    subst hcut
    obtain ⟨-, mem, hpc⟩ := hsends
    obtain ⟨runBefore, -, -⟩ := run.cut
    refine ⟨(tokenTaken hstart runBefore).2 i task mem, ?_⟩
    intro since v between u before hcut htaken hunplugs hlook
    subst hcut
    obtain ⟨runV, takenV, runSince⟩ := runBefore.cut
    obtain ⟨-, takenU, runBetween⟩ := runV.cut
    have hrevoked := revoked_of_unplugged hstart runV htaken hunplugs
    rcases hlook with
      ⟨io, before', hact, hfound, hcheck⟩ | ⟨⟨io, before', hact, hfound, hsnapshot⟩, hscans⟩
    · refine completion_of_failing takenV runSince mem hpc hrevoked hact hfound ?_
      intro pc hurb hpresence hadvance
      have hload := DeviceInventory.not_load_of_revoked hrevoked
      rw [← hpresence] at hload
      rw [← hurb]
      exact Task.failing_of_check hload hcheck hadvance
    · refine completion_of_failing takenV runSince mem hpc hrevoked hact hfound ?_
      intro pc hurb hpresence hadvance
      have hformed := inventory_wellFormed hstart runV
      have hhosts := hosts_since runBetween (hunplugs.absent takenU) hscans
      rw [← hurb] at hhosts ⊢
      exact Task.failing_of_lookup hformed hhosts hsnapshot hadvance
  · intro since a before hcut device token htoken
    subst hcut
    obtain ⟨runA, takenA, runSince⟩ := run.cut
    have runAll := runSince.from_transition takenA
    have hpresent : device ∈ a.pre.server.devices.present :=
      ((inventory_wellFormed hstart runA).presence device).mp
        ((mem_iff_lookup _ _).mpr ⟨token, htoken⟩)
    refine ⟨?_, ?_⟩
    · rw [load_iff_plugged hstart runA htoken runAll]
      exact (present_iff_plugged hpresent runAll).symm
    · intro u hu hload
      exact load_stays_cleared hstart runA htoken runAll hu hload

end

namespace Sample

/-- A server that exports the stick. -/
def hostStart : World := .initial (.new platform "server" serverFingerprint [hostDevice] 0 0) 0

def taskAt (pc : TaskPc) : Task := { session := 0, urb, presence := 0, owner := peer, pc }

/-- The URB is admitted, and its task is on the blocking pool. -/
def onPool : ServerHistory × World :=
  replay (World.step platform)
    (pair 0 peer 9 ++ attach 0 9 ++ submit 0 ++
      [.advance 0 (draw 0), .advance 0 (draw 0), .task 0 io, .task 0 io]) ([], hostStart)

def next (w : World) (act : Action) : Transition World Action :=
  ⟨w, act, (w.step platform act).getD w⟩

theorem runs_next {start w : World} {history : ServerHistory}
    (run : World.Runs platform start history w) (act : Action)
    (h : (w.step platform act).isSome = true) :
    World.Runs platform start (next w act :: history) (next w act).post :=
  run.snoc_getD h

/-- The stick is unplugged, plugged in again, and the task goes on. -/
def unplug : Transition World Action := next onPool.2 (.refreshHostDevices [])

def replug : Transition World Action := next unplug.post (.refreshHostDevices [hostDevice])

def checked : Transition World Action := next replug.post (.task 0 io)

def rechecked : Transition World Action := next checked.post (.task 0 io)

def released : Transition World Action := next rechecked.post (.task 0 io)

def sent : Transition World Action := next released.post (.task 0 io)

end Sample

theorem sample_removal_invalidates_urbs :
    World.Runs Sample.platform Sample.hostStart
        ([] ++ Sample.sent :: ([Sample.released, Sample.rechecked] ++ Sample.checked ::
          ([Sample.replug] ++ Sample.unplug :: Sample.onPool.1))) Sample.sent.post ∧
      Unplugs 1 Sample.unplug ∧ Sample.checked.pre.server.devices.present.toList ≠ [] ∧
      ∃ task complete, SendsCompletion 0 task complete Sample.sent ∧
        complete = failedUrb task.urb.seq := by
  have runPool : World.Runs Sample.platform Sample.hostStart Sample.onPool.1 Sample.onPool.2 :=
    Run.nil.replay _
  have runUnplug := Sample.runs_next runPool (.refreshHostDevices []) (by decide +kernel)
  have runReplug := Sample.runs_next runUnplug (.refreshHostDevices [Sample.hostDevice])
    (by decide +kernel)
  have runChecked := Sample.runs_next runReplug (.task 0 Sample.io) (by decide +kernel)
  have runRechecked := Sample.runs_next runChecked (.task 0 Sample.io) (by decide +kernel)
  have runReleased := Sample.runs_next runRechecked (.task 0 Sample.io) (by decide +kernel)
  have run : World.Runs Sample.platform Sample.hostStart
      ([] ++ Sample.sent :: ([Sample.released, Sample.rechecked] ++ Sample.checked ::
        ([Sample.replug] ++ Sample.unplug :: Sample.onPool.1))) Sample.sent.post :=
    Sample.runs_next runReleased (.task 0 Sample.io) (by decide +kernel)
  have htaken := (tokenTaken (.new _ _ _ _ _) runPool).2 0
    (Sample.taskAt (.blocking [Sample.hostDevice]))
    (by decide +kernel)
  have hunplugs : Unplugs 1 Sample.unplug := by decide +kernel
  have hsends : SendsCompletion 0 (Sample.taskAt (.sending (failedUrb 7))) (failedUrb 7)
      Sample.sent :=
    ⟨⟨_, rfl⟩, by decide +kernel, rfl⟩
  have hchecks : ChecksPresence 0 Sample.checked :=
    ⟨_, Sample.taskAt (.blocking [Sample.hostDevice]), rfl, by decide +kernel, rfl⟩
  obtain ⟨-, hfailed⟩ :=
    (removal_invalidates_urbs (.new _ _ _ _ _) run).1 _ _ _ rfl 0 _ _ hsends
  exact ⟨run, hunplugs, by decide +kernel, _, _, hsends,
    hfailed _ _ _ _ _ rfl htaken hunplugs (.inl hchecks)⟩

end FarBus.Core
