import SimulatorBroker.Lock.Programs

/-!
# How a process leaves the waiting loop

A raw error of the file system or a parse error can only come from a directory that is
taken away while its maker still writes the owner file, from one in which an entry has
appeared while it is removed, or from a marker that is read before it is written.
-/

namespace SimulatorBroker.Lock

open SimulatorBroker.Effects
open Relation (ReflTransGen)

/-! ## What is asked -/

/-- The ways to leave the loop that are meant. -/
def LockError.Documented : LockError → Prop
  | .broker _ => True
  | .cancelled => True
  | _ => False

/-- The rounds before the lock is acquired. -/
def LockTurn.Waits : LockTurn → Prop
  | .entering _ => True
  | .waiting _ _ => True
  | .holding => False

/-- Every process that has left the loop by an error has left it by a documented one. -/
def LeavesAsDocumented (pool : Pool lockSignature LockError LockTurn Unit Pid LockWorld) :
    Prop :=
  ∀ self state error, pool.threads self = some { state, body := .fail error } →
    state.Waits → error.Documented

/-! ## The condition -/

/-- The process is still writing the owner file of the directory it has made. -/
def SettingUp (self : Pid) (world : LockWorld) : Prop :=
  ∃ directory, world.directory = some directory ∧ directory.maker = self ∧
    directory.settled = false

/-- What a step of a recursive removal takes from the directory. -/
def Takes (directory : LockDirectory) : LockOp → Prop
  | .removeDirectory => directory.entries = []
  | .unlinkEntry entry => entry ∈ directory.entries
  | .removeListed _ => directory.entries = []
  | _ => False

/-- A recursive removal takes nothing from a directory that another live process is setting
up, and when a waiting process removes one, no entry appears that was not listed; a marker
file that is read has been written. -/
structure Orderly (pid : Pid) (op : LockOp) (world : LockWorld) : Prop where
  spares : ∀ directory, world.directory = some directory → Takes directory op →
    ∀ other, other ≠ pid → world.crashed other = false → ¬ SettingUp other world
  empties : op = .removeListed .reclaim →
    ∀ directory, world.directory = some directory → directory.entries = []
  written : ∀ name, op = .readMarker name → ∀ directory file, world.directory = some directory →
    directory.markerFile name = some file → (world.markerFiles file).token ≠ none

/-- The steps that meet the condition. -/
abbrev orderlyHandler (self : Pid) : Handler lockSignature LockError LockWorld :=
  (lockHandler self).restrict (Orderly self)

/-! ## The contract -/

def Alive (self : Pid) (world : LockWorld) : Prop :=
  world.crashed self = false

/-- What a process that is setting up loses to nobody. -/
structure Undisturbed (directory later : LockDirectory) : Prop where
  maker : later.maker = directory.maker
  settled : later.settled = directory.settled
  owner : directory.owner ≠ none → later.owner ≠ none
  temps : ∀ token, (directory.temps.find? (·.1 = token)).isSome →
    (later.temps.find? (·.1 = token)).isSome

theorem Undisturbed.refl (directory : LockDirectory) : Undisturbed directory directory :=
  ⟨rfl, rfl, id, fun _ => id⟩

/-- What others leave to a live process: that it lives, and what it is setting up. -/
structure Spares (pid : Pid) (world later : LockWorld) : Prop where
  alive : later.crashed pid = world.crashed pid
  directory : world.crashed pid = false → ∀ directory, world.directory = some directory →
    directory.maker = pid → directory.settled = false →
    ∃ kept, later.directory = some kept ∧ Undisturbed directory kept

theorem Spares.refl (self : Pid) (world : LockWorld) : Spares self world world :=
  ⟨rfl, fun _ directory hdirectory _ _ => ⟨directory, hdirectory, .refl directory⟩⟩

/-- The calls of the owner file's writer are made by a process that is setting up. -/
def Writes (self : Pid) : LockOp → LockWorld → Prop
  | .writeTemp _, world => SettingUp self world
  | .renameTemp _, world => SettingUp self world
  | .chmodOwner, world => SettingUp self world
  | .ensureDirectory, world => SettingUp self world
  | _, _ => True

def lockContract : Contract lockSignature LockError LockTurn Unit Pid LockWorld where
  rely := Spares
  guard := Writes
  enters self _ := Alive self
  results _ _ _ := True
  raises _ state error _ := state.Waits → error.Documented

/-! ## One call -/

/-- The errors a call may answer. -/
def LockOp.Errors : LockOp → LockError → Prop
  | .checkCancellation, error => error = .cancelled
  | .mkdir, error => error = .eexist
  | .openMarker, error => error = .enoent ∨ error = .eexist
  | .linkMarker _, error => error = .enoent ∨ error = .eexist
  | .now, _ => False
  | .randomUUID, _ => False
  | .processIsLive _, _ => False
  | .ensureDirectory, _ => False
  | .ownerExists, _ => False
  | .markerExists _, _ => False
  | .writeMarker _ _, _ => False
  | .unlinkMarker _, _ => False
  | .unlinkEntry _, _ => False
  | .removeDirectory, error => error = .enoent ∨ error = .enotempty
  | .removeListed _, error => error = .enoent ∨ error = .enotempty
  | _, error => error = .enoent

theorem perform_errors {self : Pid} {choice : Nat} {world after : LockWorld} {op : LockOp}
    {error : LockError} (hperform : perform self choice world op = (.error error, after)) :
    op.Errors error := by
  cases op
  all_goals
    simp only [perform, rmdir] at hperform
    repeat' split at hperform
  all_goals cases hperform
  all_goals simp [LockOp.Errors]

theorem perform_crashed (self : Pid) (choice : Nat) (world : LockWorld) (op : LockOp) :
    (perform self choice world op).2.crashed = world.crashed := by
  cases op <;> simp only [perform, rmdir] <;> repeat' split
  all_goals rfl

theorem Undisturbed.trans {first second third : LockDirectory}
    (hfirst : Undisturbed first second) (hsecond : Undisturbed second third) :
    Undisturbed first third where
  maker := hsecond.maker.trans hfirst.maker
  settled := hsecond.settled.trans hfirst.settled
  owner := fun howner => hsecond.owner (hfirst.owner howner)
  temps := fun token htoken => hsecond.temps token (hfirst.temps token htoken)

theorem Spares.trans {self : Pid} {first second third : LockWorld}
    (hfirst : Spares self first second) (hsecond : Spares self second third) :
    Spares self first third := by
  refine ⟨hsecond.alive.trans hfirst.alive, ?_⟩
  intro halive directory hdirectory hmaker hsettled
  obtain ⟨kept, hkept, hundisturbed⟩ := hfirst.directory halive directory hdirectory hmaker hsettled
  obtain ⟨last, hlast, hagain⟩ := hsecond.directory (hfirst.alive.trans halive) kept hkept
    (hundisturbed.maker.trans hmaker) (hundisturbed.settled.trans hsettled)
  exact ⟨last, hlast, hundisturbed.trans hagain⟩

theorem Spares.of_run {self : Pid} {world later : LockWorld}
    (hrun : ReflTransGen (Spares self) world later) : Spares self world later := by
  induction hrun with
  | refl => exact .refl self world
  | tail _ hstep ih => exact ih.trans hstep

theorem Spares.of_kept {self : Pid} {world later : LockWorld}
    (hcrashed : later.crashed = world.crashed)
    (hkept : ∀ directory, world.directory = some directory → directory.maker = self →
      ∃ kept, later.directory = some kept ∧ Undisturbed directory kept) :
    Spares self world later :=
  ⟨congrFun hcrashed self, fun _ directory hdirectory hmaker _ =>
    hkept directory hdirectory hmaker⟩

theorem Spares.of_same {self : Pid} {world later : LockWorld}
    (hcrashed : later.crashed = world.crashed) (hsame : later.directory = world.directory) :
    Spares self world later :=
  .of_kept hcrashed fun directory hdirectory _ =>
    ⟨directory, hsame.trans hdirectory, .refl directory⟩

/-- An empty directory is removed only where nobody is setting it up. -/
theorem Spares.of_rmdir {self : Pid} {world : LockWorld}
    (hcrashed : (rmdir world).2.crashed = world.crashed)
    (hempty : ∀ directory, world.directory = some directory → directory.entries = [] →
      world.crashed self = false → ¬ SettingUp self world) :
    Spares self world (rmdir world).2 := by
  refine ⟨congrFun hcrashed self, ?_⟩
  intro halive directory hdirectory hmaker hsettled
  simp only [rmdir, hdirectory]
  split
  · next hentries =>
    exact absurd ⟨directory, hdirectory, hmaker, hsettled⟩ (hempty directory hdirectory hentries halive)
  · exact ⟨directory, hdirectory, .refl directory⟩

/-- A process keeps to what the others rely on. -/
theorem spares_perform {self other : Pid} (hother : other ≠ self) (choice : Nat)
    {world : LockWorld} {op : LockOp} (hwrites : Writes self op world)
    (horderly : Orderly self op world) : Spares other world (perform self choice world op).2 := by
  have hcrashed := perform_crashed self choice world op
  -- a directory that this process is setting up is not the other one's
  have hmine : SettingUp self world → ∀ later : LockWorld, later.crashed = world.crashed →
      Spares other world later := by
    rintro ⟨mine, hdirectory, hmaker, -⟩ later hlater
    refine .of_kept hlater ?_
    intro directory hfound htheirs
    rw [hdirectory] at hfound
    cases hfound
    exact absurd (htheirs.symm.trans hmaker) hother
  cases op with
  | writeTemp token => exact hmine hwrites _ hcrashed
  | renameTemp token => exact hmine hwrites _ hcrashed
  | chmodOwner => exact hmine hwrites _ hcrashed
  | ensureDirectory => exact hmine hwrites _ hcrashed
  | removeDirectory =>
      exact .of_rmdir hcrashed fun directory hdirectory hempty =>
        horderly.spares directory hdirectory hempty other hother
  | removeListed site =>
      exact .of_rmdir hcrashed fun directory hdirectory hempty =>
        horderly.spares directory hdirectory hempty other hother
  | unlinkEntry entry =>
      refine ⟨congrFun hcrashed other, ?_⟩
      intro halive directory hdirectory hmaker hsettled
      simp only [perform, hdirectory]
      split
      · next hentry =>
        exact absurd ⟨directory, hdirectory, hmaker, hsettled⟩
          (horderly.spares directory hdirectory hentry other hother halive)
      · exact ⟨directory, hdirectory, .refl directory⟩
  | mkdir =>
      refine .of_kept hcrashed ?_
      intro directory hdirectory _
      exact ⟨directory, by simp only [perform, hdirectory], .refl directory⟩
  | openMarker =>
      refine .of_kept hcrashed ?_
      intro directory hdirectory _
      simp only [perform, hdirectory]
      split
      · exact ⟨directory, hdirectory, .refl directory⟩
      · exact ⟨_, rfl, rfl, rfl, id, fun _ => id⟩
  | renameMarker token =>
      refine .of_kept hcrashed ?_
      intro directory hdirectory _
      simp only [perform, hdirectory]
      split
      · exact ⟨_, rfl, rfl, rfl, id, fun _ => id⟩
      · exact ⟨directory, hdirectory, .refl directory⟩
  | linkMarker token =>
      refine .of_kept hcrashed ?_
      intro directory hdirectory _
      simp only [perform, hdirectory]
      split
      · split
        · exact ⟨directory, hdirectory, .refl directory⟩
        · exact ⟨_, rfl, rfl, rfl, id, fun _ => id⟩
      · exact ⟨directory, hdirectory, .refl directory⟩
  | unlinkMarker name =>
      refine .of_kept hcrashed ?_
      intro directory hdirectory _
      simp only [perform, hdirectory]
      split
      · exact ⟨_, rfl, rfl, rfl, id, fun _ => id⟩
      · exact ⟨directory, hdirectory, .refl directory⟩
  | _ =>
      refine .of_same hcrashed ?_
      simp only [perform]
      repeat' split
      all_goals rfl

/-! ## Programs that throw only some errors -/

section Throwing

variable {self : Pid}

/-- What one process knows of its own calls. -/
abbrev besideHandler (self : Pid) : Handler lockSignature LockError LockWorld :=
  (orderlyHandler self).beside (Spares self)

theorem wp_call {op : LockOp} {world : LockWorld} {post : op.Ret → LockWorld → Prop}
    {raise : LockError → LockWorld → Prop} (hwrites : Writes self op world)
    (hok : ∀ choice value after later, Orderly self op world →
      perform self choice world op = (.ok value, after) → Spares self after later →
      post value later)
    (herror : ∀ choice error after later, Orderly self op world →
      perform self choice world op = (.error error, after) → Spares self after later →
      raise error later) :
    wp (besideHandler self) (Writes self) (call op) post raise world := by
  unfold call
  rw [wp_request]
  refine ⟨hwrites, ?_, ?_⟩
  · rintro value later ⟨after, ⟨horderly, choice, hperform⟩, hrun⟩
    exact hok choice value after later horderly hperform (.of_run hrun)
  · rintro error later ⟨after, ⟨horderly, choice, hperform⟩, hrun⟩
    exact herror choice error after later horderly hperform (.of_run hrun)

theorem Alive.kept {world after later : LockWorld} {choice : Nat} {op : LockOp}
    {answer : Except LockError op.Ret} (halive : Alive self world)
    (hperform : perform self choice world op = (answer, after)) (hspares : Spares self after later) :
    Alive self later := by
  have hcrashed := perform_crashed self choice world op
  rw [hperform] at hcrashed
  exact hspares.alive.trans ((congrFun hcrashed self).trans halive)

/-- Wherever a live process runs the program, it throws only what is allowed. -/
def Throws {α : Type} (self : Pid) (body : LockProgram α) (allowed : LockError → Prop) : Prop :=
  ∀ world, Alive self world →
    wp (besideHandler self) (Writes self) body (fun _ after => Alive self after)
      (fun error after => Alive self after ∧ allowed error) world

namespace Throws

variable {α β : Type} {allowed weaker : LockError → Prop}

theorem mono {body : LockProgram α} (hbody : Throws self body allowed)
    (himp : ∀ error, allowed error → weaker error) : Throws self body weaker := by
  intro world halive
  exact (hbody world halive).mono (fun _ _ h => h) (fun _ _ h => h)
    (fun error _ h => ⟨h.1, himp error h.2⟩)

theorem pure (value : α) : Throws self (Pure.pure value : LockProgram α) allowed :=
  fun _ halive => halive

theorem throw {error : LockError} (herror : allowed error) :
    Throws self (throw error : LockProgram α) allowed :=
  fun _ halive => ⟨halive, herror⟩

theorem bind {body : LockProgram α} {rest : α → LockProgram β} (hbody : Throws self body allowed)
    (hrest : ∀ value, Throws self (rest value) allowed) :
    Throws self (body >>= rest) allowed := by
  intro world halive
  rw [wp_bind]
  exact (hbody world halive).mono (fun _ _ h => h) (fun value after h => hrest value after h)
    (fun _ _ h => h)

theorem tryCatch {body : LockProgram α} {handler : LockError → LockProgram α}
    (hbody : Throws self body allowed)
    (hhandler : ∀ error, allowed error → Throws self (handler error) weaker) :
    Throws self (tryCatch body handler) weaker := by
  intro world halive
  rw [wp_tryCatch]
  exact (hbody world halive).mono (fun _ _ h => h) (fun _ _ h => h)
    (fun error after h => hhandler error h.2 after h.1)

/-- The outcome is handed on, and an error is an allowed one. -/
theorem attempt {body : LockProgram α} {rest : Except LockError α → LockProgram β}
    (hbody : Throws self body allowed) (hok : ∀ value, Throws self (rest (.ok value)) weaker)
    (herror : ∀ error, allowed error → Throws self (rest (.error error)) weaker) :
    Throws self (body.attempt >>= rest) weaker := by
  intro world halive
  rw [wp_bind, wp_attempt]
  exact (hbody world halive).mono (fun _ _ h => h) (fun value after h => hok value after h)
    (fun error after h => herror error h.2 after h.1)

theorem ensuring {body : LockProgram α} {cleanup : LockProgram Unit}
    (hbody : Throws self body allowed) (hcleanup : Throws self cleanup allowed) :
    Throws self (body.ensuring cleanup) allowed := by
  intro world halive
  rw [wp_ensuring]
  refine (hbody world halive).mono (fun _ _ h => h) ?_ ?_
  · intro _ after h
    exact (hcleanup after h).mono (fun _ _ h => h) (fun _ _ h => h) (fun _ _ h => h)
  · intro error after h
    exact (hcleanup after h.1).mono (fun _ _ h => h) (fun _ _ h' => ⟨h', h.2⟩) (fun _ _ h => h)

theorem ite {condition : Prop} [Decidable condition] {first second : LockProgram α}
    (hfirst : condition → Throws self first allowed)
    (hsecond : ¬ condition → Throws self second allowed) :
    Throws self (if condition then first else second) allowed := by
  split
  · next h => exact hfirst h
  · next h => exact hsecond h

/-- A call that is not one of the owner file's writer. -/
theorem call (op : LockOp) (herrors : ∀ error, op.Errors error → allowed error)
    (hwrites : Writes self op = fun _ => True) : Throws self (Lock.call op) allowed := by
  intro world halive
  refine wp_call (hwrites ▸ trivial) ?_ ?_
  · intro choice value after later _ hperform hspares
    exact halive.kept hperform hspares
  · intro choice error after later _ hperform hspares
    exact ⟨halive.kept hperform hspares, herrors error (perform_errors hperform)⟩

theorem quiet (op : LockOp) (herrors : op.Errors = fun _ => False)
    (hwrites : Writes self op = fun _ => True) : Throws self (Lock.call op) allowed :=
  .call op (fun _ herror => (herrors ▸ herror).elim) hwrites

theorem exact (op : LockOp) (herrors : op.Errors = allowed)
    (hwrites : Writes self op = fun _ => True) : Throws self (Lock.call op) allowed :=
  .call op (fun _ herror => herrors ▸ herror) hwrites

end Throws

/-! ## The programs of the loop -/

/-- Something is missing. -/
abbrev Missing (error : LockError) : Prop := error = .enoent

/-- Nothing is thrown. -/
abbrev Nothing (_ : LockError) : Prop := False

theorem throws_orMissing {α : Type} {body : LockProgram α} (hbody : Throws self body Missing) :
    Throws self (orMissing body) Nothing := by
  refine .tryCatch (.bind hbody fun value => .pure _) ?_
  rintro error rfl
  exact .pure _

theorem throws_readJsonIfExists {α : Type} {exists_ : LockProgram Bool} {readJson : LockProgram α}
    (hexists : Throws self exists_ Missing) (hread : Throws self readJson Missing) :
    Throws self (readJsonIfExists exists_ readJson) Nothing := by
  refine .tryCatch (.bind hexists fun found => ?_) ?_
  · exact .ite (fun _ => .bind hread fun value => .pure _) (fun _ => .pure _)
  · rintro error rfl
    exact .pure _

theorem throws_readOwner : Throws self readOwner Nothing :=
  throws_readJsonIfExists (.quiet .ownerExists rfl rfl) (.exact .readOwner rfl rfl)

/-- The text of a marker is complete where the condition holds. -/
theorem throws_readMarkerJson (name : MarkerName) : Throws self (readMarkerJson name) Missing := by
  intro world halive
  unfold readMarkerJson
  rw [wp_bind]
  refine wp_call trivial ?_ ?_
  · intro choice value after later horderly hperform hspares
    have hlive := halive.kept hperform hspares
    simp only [perform] at hperform
    split at hperform
    · next file hfile =>
      cases hperform
      obtain ⟨directory, hdirectory, hname⟩ := Option.bind_eq_some_iff.mp hfile
      cases htoken : (world.markerFiles file).token with
      | none => exact absurd htoken (horderly.written name rfl directory file hdirectory hname)
      | some token => exact hlive
    · cases hperform
  · intro choice error after later _ hperform hspares
    exact ⟨halive.kept hperform hspares, perform_errors hperform⟩

theorem throws_readMarker (name : MarkerName) : Throws self (readMarker name) Nothing :=
  throws_readJsonIfExists (.quiet (.markerExists name) rfl rfl) (throws_readMarkerJson name)

theorem throws_removeIfExists (name : MarkerName) : Throws self (removeIfExists name) Nothing :=
  .bind (.quiet (.markerExists name) rfl rfl) fun _ =>
    .ite (fun _ => .quiet (.unlinkMarker name) rfl rfl) (fun _ => .pure _)

theorem throws_readLockOwnerTimestampMs {exists_ : LockProgram Bool} {statFile : LockProgram Time}
    (hexists : Throws self exists_ Missing) (hstat : Throws self statFile Missing) :
    Throws self (readLockOwnerTimestampMs exists_ statFile) Nothing := by
  refine throws_orMissing (.bind hexists fun found => ?_)
  exact .ite (fun _ => hstat) (fun _ => .bind (.exact .statDirectory rfl rfl) fun _ => .pure _)

theorem throws_readPathIdentity {statPath : LockProgram Stats}
    (hstat : Throws self statPath Missing) : Throws self (readPathIdentity statPath) Nothing :=
  throws_orMissing (.bind hstat fun _ => .pure _)

theorem throws_ownerIsStale (owner : Option Pid) : Throws self (ownerIsStale owner) Nothing := by
  cases owner with
  | none => exact .pure _
  | some pid => exact .bind (.quiet (.processIsLive pid) rfl rfl) fun _ => .pure _

theorem throws_readLockSnapshot (timeoutMs : Time) :
    Throws self (readLockSnapshot timeoutMs) Nothing := by
  refine .bind throws_readOwner fun owner => ?_
  refine .bind (throws_ownerIsStale owner) fun stale => ?_
  refine .bind (throws_readLockOwnerTimestampMs (.quiet .ownerExists rfl rfl)
    (.exact .statOwner rfl rfl)) fun timestamp => ?_
  refine .bind (throws_readPathIdentity (.exact .statDirectory rfl rfl)) fun identity => ?_
  exact .bind (.quiet .now rfl rfl) fun _ => .pure _

/-- Something is missing or in the way. -/
abbrev MissingOrExisting (error : LockError) : Prop := error = .enoent ∨ error = .eexist

theorem throws_writeLockReclaimMarker (token : Token) :
    Throws self (writeLockReclaimMarker token) MissingOrExisting := by
  refine .bind (.exact .openMarker rfl rfl) fun file => ?_
  refine .bind (.quiet (.writeMarker file token) rfl rfl) fun _ => ?_
  exact .bind (.call .chmodMarker (fun _ => .inl) rfl) fun _ => .pure _

theorem throws_restoreClaimedLockReclaimMarker (token : Token) :
    Throws self (restoreClaimedLockReclaimMarker token) Nothing := by
  have hlink : Throws self (call (.linkMarker token)) MissingOrExisting :=
    .exact (.linkMarker token) rfl rfl
  refine .ensuring (hlink.tryCatch ?_) (throws_removeIfExists _)
  rintro error (rfl | rfl)
  · exact .pure _
  · exact .pure _

theorem throws_takeOverMarker (token : Token) (markerIdentity : Option Identity)
    (markerOwner : Option Token) :
    Throws self (takeOverMarker token markerIdentity markerOwner) Nothing := by
  refine .bind (throws_orMissing (.exact (.renameMarker token) rfl rfl)) fun renamed => ?_
  cases renamed with
  | none => exact .pure _
  | some done =>
      refine .bind (throws_readPathIdentity (.exact (.statMarker (.claimed token)) rfl rfl))
        fun identity => ?_
      refine .bind (throws_readMarker (.claimed token)) fun owner => ?_
      refine .ite (fun _ => ?_) (fun _ => ?_)
      · refine .ensuring ?_ (throws_removeIfExists _)
        refine .tryCatch (.bind (throws_writeLockReclaimMarker token) fun _ => .pure _) ?_
        rintro error (rfl | rfl)
        · exact .pure _
        · exact .pure _
      · exact .bind (throws_restoreClaimedLockReclaimMarker token) fun _ => .pure _

theorem throws_contendForMarker (token : Token) (timeoutMs : Time) :
    Throws self (contendForMarker token timeoutMs) Nothing := by
  refine .bind (throws_readLockOwnerTimestampMs (.quiet (.markerExists .current) rfl rfl)
    (.bind (.exact (.statMarker .current) rfl rfl) fun _ => .pure _)) fun timestamp => ?_
  refine .bind (throws_readPathIdentity (.exact (.statMarker .current) rfl rfl)) fun identity => ?_
  refine .bind (throws_readMarker .current) fun owner => ?_
  refine .bind (.quiet .now rfl rfl) fun now => ?_
  exact .ite (fun _ => throws_takeOverMarker token identity owner) (fun _ => .pure _)

theorem throws_acquireLockReclaimMarker (timeoutMs : Time) :
    Throws self (acquireLockReclaimMarker timeoutMs) Nothing := by
  refine .bind (.quiet .randomUUID rfl rfl) fun token => ?_
  refine .tryCatch (.bind (throws_writeLockReclaimMarker token) fun _ => .pure _) ?_
  rintro error (rfl | rfl)
  · exact .pure _
  · exact throws_contendForMarker token timeoutMs

theorem throws_removeLockReclaimMarkerIfOwned (token : Token) :
    Throws self (removeLockReclaimMarkerIfOwned token) Nothing :=
  .bind (throws_readMarker .current) fun _ =>
    .ite (fun _ => throws_removeIfExists .current) (fun _ => .pure _)

theorem throws_judgeStaleLock (previous : LockSnapshot) (timeoutMs : Time) :
    Throws self (judgeStaleLock previous timeoutMs) Nothing := by
  refine .bind (throws_readLockSnapshot timeoutMs) fun latest => ?_
  refine .ite (fun _ => .pure _) (fun _ => ?_)
  refine .bind (.quiet .now rfl rfl) fun now => ?_
  exact .ite (fun _ => .pure _) (fun _ => .pure _)

theorem throws_unlinkEntries {allowed : LockError → Prop} (entries : List LockEntry) :
    Throws self (unlinkEntries entries) allowed := by
  induction entries with
  | nil => exact .pure _
  | cons entry rest ih => exact .bind (.quiet (.unlinkEntry entry) rfl rfl) fun _ => ih

/-- Something is missing, or the directory is not empty. -/
abbrev MissingOrNotEmpty (error : LockError) : Prop := error = .enoent ∨ error = .enotempty

/-- A removal fails only where an entry has appeared. -/
theorem throws_removeRecursively (site : RemovalSite) {allowed : LockError → Prop}
    (hlisted : Throws self (call (.removeListed site)) fun error => error = .enoent ∨ allowed error) :
    Throws self (removeRecursively site) allowed := by
  have hfirst : Throws self (call .removeDirectory) MissingOrNotEmpty :=
    .exact .removeDirectory rfl rfl
  have hboth : Throws self (removeTree site) fun error => error = .enoent ∨ allowed error := by
    refine hfirst.tryCatch ?_
    rintro error (rfl | rfl)
    · exact .throw (.inl rfl)
    · exact .bind (.call .listDirectory (fun _ => .inl) rfl) fun entries =>
        .bind (throws_unlinkEntries entries) fun _ => hlisted
  refine hboth.tryCatch ?_
  rintro error (rfl | herror)
  · exact .pure _
  · cases error with
    | enoent => exact .pure _
    | _ => exact .throw herror

/-- The last call of a waiting process that removes a lock finds it empty. -/
theorem throws_removeListed_reclaim : Throws self (call (.removeListed .reclaim)) Missing := by
  intro world halive
  refine wp_call trivial ?_ ?_
  · intro choice value after later _ hperform hspares
    exact halive.kept hperform hspares
  · intro choice error after later horderly hperform hspares
    refine ⟨halive.kept hperform hspares, ?_⟩
    simp only [perform, rmdir] at hperform
    split at hperform
    · next directory hdirectory =>
      rw [if_pos (horderly.empties rfl directory hdirectory)] at hperform
      cases hperform
    · cases hperform
      rfl

theorem throws_reclaimStaleLock (previous : LockSnapshot) (timeoutMs : Time) :
    Throws self (reclaimStaleLock previous timeoutMs) Nothing := by
  refine .bind (throws_acquireLockReclaimMarker timeoutMs) fun marker => ?_
  cases marker with
  | none => exact .pure _
  | some token =>
      refine .attempt (throws_judgeStaleLock previous timeoutMs) ?_ ?_
      · intro reclaim
        cases reclaim with
        | remove =>
            exact .bind (throws_removeRecursively .reclaim
              (throws_removeListed_reclaim.mono fun _ => .inl)) fun _ => .pure _
        | kept => exact .bind (throws_removeLockReclaimMarkerIfOwned token) fun _ => .pure _
        | released => exact .bind (throws_removeLockReclaimMarkerIfOwned token) fun _ => .pure _
      · rintro error ⟨⟩

/-! ## Writing the owner file -/

/-- The process is setting up, and its directory has what it needs. -/
def SettingUpWith (self : Pid) (needs : LockDirectory → Prop) (world : LockWorld) : Prop :=
  Alive self world ∧ ∃ directory, world.directory = some directory ∧ directory.maker = self ∧
    directory.settled = false ∧ needs directory

/-- The temporary file is there. -/
def HasTemp (token : Token) (directory : LockDirectory) : Prop :=
  (directory.temps.find? (·.1 = token)).isSome

/-- The owner file is there. -/
def HasOwner (directory : LockDirectory) : Prop :=
  directory.owner ≠ none

theorem SettingUpWith.settingUp {needs : LockDirectory → Prop} {world : LockWorld}
    (hsetting : SettingUpWith self needs world) : SettingUp self world := by
  obtain ⟨-, directory, hdirectory, hmaker, hsettled, -⟩ := hsetting
  exact ⟨directory, hdirectory, hmaker, hsettled⟩

/-- What a process needs is left to it. -/
theorem SettingUpWith.spared {needs : LockDirectory → Prop} {world later : LockWorld}
    (hkeeps : ∀ directory kept, Undisturbed directory kept → needs directory → needs kept)
    (hsetting : SettingUpWith self needs world) (hspares : Spares self world later) :
    SettingUpWith self needs later := by
  obtain ⟨halive, directory, hdirectory, hmaker, hsettled, hneeds⟩ := hsetting
  obtain ⟨kept, hkept, hundisturbed⟩ :=
    hspares.directory halive directory hdirectory hmaker hsettled
  exact ⟨hspares.alive.trans halive, kept, hkept, hundisturbed.maker.trans hmaker,
    hundisturbed.settled.trans hsettled, hkeeps directory kept hundisturbed hneeds⟩

/-- A call made while setting up, and what follows: it cannot fail, and the others leave what
it has done. -/
theorem wp_settingUp {β : Type} (op : LockOp) {needs : LockDirectory → Prop}
    (leaves : op.Ret → LockDirectory → Prop) {world : LockWorld}
    {rest : op.Ret → LockProgram β} {post : β → LockWorld → Prop}
    {raise : LockError → LockWorld → Prop} (hsetting : SettingUpWith self needs world)
    (hwrites : Writes self op world)
    (hkeeps : ∀ value directory kept, Undisturbed directory kept → leaves value directory →
      leaves value kept)
    (hperform : ∀ choice directory, world.directory = some directory → directory.maker = self →
      directory.settled = false → needs directory →
      ∃ value after, perform self choice world op = (.ok value, after) ∧
        ∃ done, after.directory = some done ∧ done.maker = self ∧ done.settled = false ∧
          leaves value done)
    (hrest : ∀ value later, SettingUpWith self (leaves value) later →
      wp (besideHandler self) (Writes self) (rest value) post raise later) :
    wp (besideHandler self) (Writes self) (call op >>= rest) post raise world := by
  obtain ⟨halive, directory, hdirectory, hmaker, hsettled, hneeds⟩ := hsetting
  rw [wp_bind]
  refine wp_call hwrites ?_ ?_
  · intro choice value after later _ hcalled hspares
    obtain ⟨value', after', hcall, hdone⟩ := hperform choice directory hdirectory hmaker hsettled
      hneeds
    have hcrashed := perform_crashed self choice world op
    rw [hcall] at hcalled hcrashed
    cases hcalled
    exact hrest _ _
      (SettingUpWith.spared (hkeeps _) ⟨(congrFun hcrashed self).trans halive, hdone⟩ hspares)
  · intro choice error after later _ hcalled hspares
    obtain ⟨value', after', hcall, -⟩ := hperform choice directory hdirectory hmaker hsettled hneeds
    rw [hcall] at hcalled
    cases hcalled

/-- Nothing beside the directory. -/
abbrev Anything (_ : LockDirectory) : Prop := True

theorem wp_writeJsonAtomicRestricted {world : LockWorld} {raise : LockError → LockWorld → Prop}
    (hsetting : SettingUpWith self Anything world) :
    wp (besideHandler self) (Writes self) writeJsonAtomicRestricted
      (fun _ after => Alive self after) raise world := by
  refine wp_settingUp .ensureDirectory (fun _ => Anything) hsetting hsetting.settingUp
    (fun _ _ _ _ h => h) ?_ ?_
  · intro choice directory hdirectory hmaker hsettled _
    exact ⟨(), world, by simp only [perform, hdirectory], directory, hdirectory, hmaker, hsettled,
      trivial⟩
  intro _ world hsetting
  refine wp_settingUp .randomUUID (fun _ => Anything) hsetting trivial (fun _ _ _ _ h => h) ?_ ?_
  · intro choice directory hdirectory hmaker hsettled _
    exact ⟨_, _, rfl, directory, hdirectory, hmaker, hsettled, trivial⟩
  intro token world hsetting
  refine wp_settingUp (.writeTemp token) (fun _ => HasTemp token) hsetting hsetting.settingUp
    (fun _ _ _ hkept h => hkept.temps token h) ?_ ?_
  · intro choice directory hdirectory hmaker hsettled _
    refine ⟨(), world.change { directory with temps := (token, world.clock) :: directory.temps },
      by simp only [perform, hdirectory], _, rfl, hmaker, hsettled, ?_⟩
    simp [HasTemp]
  intro _ world hsetting
  refine wp_settingUp (.chmodTemp token) (fun _ => HasTemp token) hsetting trivial
    (fun _ _ _ hkept h => hkept.temps token h) ?_ ?_
  · intro choice directory hdirectory hmaker hsettled htemp
    refine ⟨(), world, ?_, directory, hdirectory, hmaker, hsettled, htemp⟩
    simp only [perform, hdirectory]
    exact if_pos htemp
  intro _ world hsetting
  refine wp_settingUp (.renameTemp token) (fun _ => HasOwner) hsetting hsetting.settingUp
    (fun _ _ _ hkept h => hkept.owner h) ?_ ?_
  · intro choice directory hdirectory hmaker hsettled htemp
    obtain ⟨⟨found, changedAt⟩, htemp⟩ := Option.isSome_iff_exists.mp htemp
    refine ⟨(), world.change { directory with
      owner := some { pid := self, changedAt }
      temps := directory.temps.filter (·.1 ≠ token) }, by simp only [perform, hdirectory, htemp],
      _, rfl, hmaker, hsettled, ?_⟩
    simp [HasOwner]
  rintro _ world ⟨halive, directory, hdirectory, hmaker, hsettled, howner⟩
  refine wp_call ⟨directory, hdirectory, hmaker, hsettled⟩ ?_ ?_
  · intro choice value after later _ hperform hspares
    exact halive.kept hperform hspares
  · intro choice error after later _ hperform hspares
    simp only [perform, hdirectory] at hperform
    rw [if_neg howner] at hperform
    cases hperform

/-- The only error of the setup is that somebody else has made the directory. -/
theorem throws_setUp : Throws self setUp (fun error => error = .eexist) := by
  intro world halive
  unfold setUp
  rw [wp_bind]
  refine wp_call trivial ?_ ?_
  · intro choice value after later _ hperform hspares
    have hmade : SettingUpWith self Anything after := by
      simp only [perform] at hperform
      split at hperform
      · cases hperform
      · cases hperform
        exact ⟨halive, _, rfl, rfl, rfl, trivial⟩
    have hsetting := hmade.spared (fun _ _ _ h => h) hspares
    refine wp_settingUp .chmodDirectory (fun _ => Anything) hsetting trivial
      (fun _ _ _ _ h => h) ?_ (fun _ _ hready => wp_writeJsonAtomicRestricted hready)
    intro choice directory hdirectory hmaker hsettled _
    exact ⟨(), later, by simp only [perform, hdirectory], directory, hdirectory, hmaker, hsettled,
      trivial⟩
  · intro choice error after later _ hperform hspares
    exact ⟨halive.kept hperform hspares, perform_errors hperform⟩

/-! ## The rounds -/

theorem throws_checkCancellation (options : LockOptions) :
    Throws self (checkCancellation options) LockError.Documented :=
  .ite (fun _ => .call .checkCancellation (fun _ herror => herror ▸ trivial) rfl)
    (fun _ => .pure _)

theorem throws_nothing {α : Type} {body : LockProgram α} {allowed : LockError → Prop}
    (hbody : Throws self body Nothing) : Throws self body allowed :=
  hbody.mono fun _ => False.elim

/-- A broker error, or what follows. -/
theorem throws_unless {α : Type} {condition : Prop} [Decidable condition] (error : BrokerError)
    {rest : LockProgram α} (hrest : Throws self rest LockError.Documented) :
    Throws self (if condition then throw (.broker error) else rest) LockError.Documented :=
  .ite (fun _ => .throw trivial) (fun _ => hrest)

theorem throws_keepWaiting (kind : LockKind) (options : LockOptions) (startedAt : Time) :
    Throws self (keepWaiting kind options startedAt) LockError.Documented := by
  unfold keepWaiting
  refine throws_unless _ ?_
  refine .bind (.quiet .now rfl rfl) fun now => ?_
  refine throws_unless _ ?_
  exact .bind (throws_checkCancellation options) fun _ => .pure _

theorem throws_contendForLock (kind : LockKind) (options : LockOptions) (startedAt : Time) :
    Throws self (contendForLock kind options startedAt) LockError.Documented := by
  unfold contendForLock
  refine throws_unless _ ?_
  refine .bind (throws_nothing (throws_readLockSnapshot _)) fun snapshot => ?_
  refine .ite (fun _ => .pure _) (fun _ => ?_)
  refine .ite (fun _ => ?_) (fun _ => throws_keepWaiting kind options startedAt)
  refine .bind (throws_nothing (throws_reclaimStaleLock snapshot _)) fun reclaim => ?_
  exact .ite (fun _ => .pure _) (fun _ => throws_keepWaiting kind options startedAt)

theorem throws_waitForLock (kind : LockKind) (options : LockOptions) (startedAt : Time) :
    Throws self (waitForLock kind options startedAt) LockError.Documented := by
  refine .bind (throws_checkCancellation options) fun _ => ?_
  refine .attempt throws_setUp ?_ ?_
  · exact fun _ => .pure _
  · rintro error rfl
    exact throws_contendForLock kind options startedAt

theorem throws_removeLockIfOwned : Throws self (removeLockIfOwned self) fun _ => True := by
  refine .bind (throws_nothing throws_readOwner) fun owner => ?_
  refine .ite (fun _ => ?_) (fun _ => .pure _)
  exact throws_removeRecursively .release (.call _ (fun _ _ => .inr trivial) rfl)

/-- What a process may throw in a round. -/
def LockTurn.Allows (turn : LockTurn) (error : LockError) : Prop :=
  turn.Waits → error.Documented

theorem throws_lockRound (kind : LockKind) (turn : LockTurn) :
    Throws self (lockRound kind self turn) turn.Allows := by
  cases turn with
  | entering options => exact .bind (.quiet .now rfl rfl) fun _ => .pure _
  | waiting options startedAt =>
      exact (throws_waitForLock kind options startedAt).mono fun _ h _ => h
  | holding =>
      exact (Throws.bind throws_removeLockIfOwned fun _ => .pure _).mono fun _ _ hwaits => hwaits.elim

end Throwing

/-! ## Whole runs -/

theorem lockContract_sound (kind : LockKind) :
    lockContract.Sound (lockScheduler kind orderlyHandler) where
  starts := fun _ _ _ hstarts => hstarts.1
  stable := fun _ _ _ _ halive hspares => hspares.alive.trans halive
  rounds := by
    intro self state world halive
    refine (throws_lockRound kind state world halive).mono (fun _ _ h => h) ?_ (fun _ _ h => h.2)
    intro value after halive
    cases value with
    | inl state => exact halive
    | inr result => trivial
  guarantees := by
    rintro self other op world answer after hother hwrites ⟨horderly, choice, hperform⟩
    have hspares := spares_perform hother choice hwrites horderly
    rw [hperform] at hspares
    exact hspares
  stops := by
    intro self other world hother
    refine ⟨Function.update_of_ne hother _ _, ?_⟩
    exact fun _ directory hdirectory _ _ => ⟨directory, hdirectory, .refl directory⟩
  outside := by
    rintro self world after ⟨clock, -, rfl⟩
    exact .of_same rfl rfl

/-- In every run in which no directory is removed while its maker still writes the owner file or
while another entry appears, and no marker is read before it is written, the waiting loop is left
as documented. -/
theorem leavesAsDocumented {kind : LockKind} {world : LockWorld}
    {pool : Pool lockSignature LockError LockTurn Unit Pid LockWorld}
    (hreaches : Pool.Reaches (lockScheduler kind orderlyHandler)
      { world, threads := fun _ => none } pool) : LeavesAsDocumented pool := by
  intro self state error hbody hwaits
  exact (lockContract_sound kind).raised (fun self world => .refl self world) hreaches hbody hwaits

/-! ## Chosen runs -/

/-- One move of a chosen run. -/
inductive Move where
  | start (self : Pid) (options : LockOptions)
  | act (self : Pid) (choice : Nat)
  | again (self : Pid)
  deriving DecidableEq, Repr

abbrev LockPool : Type := Pool lockSignature LockError LockTurn Unit Pid LockWorld

/-- The move, unless it is not possible or the operation is not accepted. -/
def LockPool.move (kind : LockKind) (accepts : LockOp → Bool) (pool : LockPool) :
    Move → Option LockPool
  | .start self options =>
      match pool.threads self with
      | some _ => none
      | none =>
          if pool.world.crashed self = false ∧ kind ≠ .reset then
            some (pool.set pool.world self
              (some { state := .entering options, body := lockRound kind self (.entering options) }))
          else none
  | .act self choice =>
      match pool.threads self with
      | some { state, body := .perform op next } =>
          if accepts op then
            let answered := perform self choice pool.world op
            some (pool.set answered.2 self (some { state, body := next answered.1 }))
          else none
      | _ => none
  | .again self =>
      match pool.threads self with
      | some { body := .done (.inl state), .. } =>
          some (pool.set pool.world self (some { state, body := lockRound kind self state }))
      | _ => none

theorem LockPool.step_of_move {kind : LockKind} {accepts : LockOp → Bool} {pool next : LockPool}
    {move : Move} {handler : Pid → Handler lockSignature LockError LockWorld}
    (haccepts : ∀ self op world answer after, accepts op = true →
      (lockHandler self).step op world answer after → (handler self).step op world answer after)
    (hmove : LockPool.move kind accepts pool move = some next) :
    Pool.Step (lockScheduler kind handler) pool next := by
  cases move with
  | start self options =>
      simp only [LockPool.move] at hmove
      split at hmove
      · cases hmove
      · next hfree =>
        simp only [Option.ite_none_right_eq_some, Option.some.injEq] at hmove
        obtain ⟨⟨halive, hkind⟩, rfl⟩ := hmove
        refine .start pool self (.entering options) hfree ⟨halive, options, ?_, rfl⟩
        cases kind with
        | reset => exact absurd rfl hkind
        | leaseMutation => trivial
        | capacity => trivial
  | act self choice =>
      simp only [LockPool.move] at hmove
      split at hmove
      · next state op following hbody =>
        simp only [Option.ite_none_right_eq_some, Option.some.injEq] at hmove
        obtain ⟨haccepted, rfl⟩ := hmove
        exact .act pool self state op following _ _ hbody
          (haccepts self op pool.world _ _ haccepted ⟨choice, rfl⟩)
      · cases hmove
  | again self =>
      simp only [LockPool.move] at hmove
      split at hmove
      · next before state hbody =>
        cases hmove
        exact .again pool self before state hbody
      · cases hmove

def LockPool.moves (kind : LockKind) (accepts : LockOp → Bool) (pool : LockPool)
    (moves : List Move) : Option LockPool :=
  moves.foldlM (LockPool.move kind accepts) pool

theorem LockPool.reaches_of_moves {kind : LockKind} {accepts : LockOp → Bool}
    {handler : Pid → Handler lockSignature LockError LockWorld}
    (haccepts : ∀ self op world answer after, accepts op = true →
      (lockHandler self).step op world answer after → (handler self).step op world answer after)
    {moves : List Move} {pool last : LockPool}
    (hmoves : LockPool.moves kind accepts pool moves = some last) :
    Pool.Reaches (lockScheduler kind handler) pool last := by
  induction moves generalizing pool with
  | nil =>
      cases hmoves
      exact .refl
  | cons move moves ih =>
      simp only [LockPool.moves, List.foldlM_cons, Option.bind_eq_bind,
        Option.bind_eq_some_iff] at hmoves
      obtain ⟨middle, hmove, hrest⟩ := hmoves
      exact .head (LockPool.step_of_move haccepts hmove) (ih hrest)

/-- The calls on which the condition says nothing. -/
def LockOp.isPlain : LockOp → Bool
  | .removeDirectory => false
  | .unlinkEntry _ => false
  | .removeListed _ => false
  | .readMarker _ => false
  | _ => true

theorem LockOp.orderly_of_isPlain (self : Pid) (op : LockOp) (world : LockWorld)
    (hplain : op.isPlain = true) : Orderly self op world := by
  cases op with
  | removeDirectory => cases hplain
  | unlinkEntry entry => cases hplain
  | removeListed site => cases hplain
  | readMarker name => cases hplain
  | _ => exact ⟨fun _ _ htakes => htakes.elim, nofun, nofun⟩

/-- Nobody has started, and the owner of the lock has crashed. -/
def staleLockPool : LockPool where
  world := {
    directory := some {
      identity := 0, maker := 9, changedAt := 0, settled := true, owner := some ⟨9, 0⟩ }
    fresh := 1
    crashed := fun pid => pid = 9 }
  threads _ := none

/-- A process starts and looks at the lock, up to the end of its first snapshot. -/
def looks (self : Pid) (options : LockOptions) : List Move :=
  [.start self options, .act self 0, .again self] ++ List.replicate 8 (.act self 0)

/-- A caller that does not wait finds a lock whose owner looks alive and leaves as
documented. -/
theorem leavesAsDocumented_held :
    ∃ pool, Pool.Reaches (lockScheduler .leaseMutation orderlyHandler)
        { world := staleLockPool.world, threads := fun _ => none } pool ∧
      pool.threads 1 = some {
        state := .waiting { wait := false } 0
        body := .fail (.broker ⟨.aliasBusy, "The broker lease mutation lock is already held."⟩) } ∧
      LeavesAsDocumented pool := by
  have hmoves : LockPool.moves .leaseMutation LockOp.isPlain staleLockPool
      ([.start 1 { wait := false }, .act 1 0, .again 1] ++ List.replicate 8 (.act 1 1)) =
      some _ := rfl
  have haccepts : ∀ self op world answer after, op.isPlain = true →
      (lockHandler self).step op world answer after →
      (orderlyHandler self).step op world answer after :=
    fun self op world _ _ hplain hstep => ⟨op.orderly_of_isPlain self world hplain, hstep⟩
  have hreaches : Pool.Reaches (lockScheduler .leaseMutation orderlyHandler) staleLockPool _ :=
    LockPool.reaches_of_moves haccepts hmoves
  exact ⟨_, hreaches, rfl, leavesAsDocumented hreaches⟩

/-- A process reads a marker that another one has created and not yet written: its loop is
left by a parse error. -/
def readsUnwrittenMarker : List Move :=
  looks 1 {} ++ List.replicate 2 (.act 1 0) ++ looks 2 {} ++ List.replicate 7 (.act 2 0)

/-- A process removes the lock of a crashed owner, and has so far unlinked its own marker. -/
def unlinksMarker (self : Pid) : List Move :=
  looks self {} ++ List.replicate 12 (.act self 0) ++ [.act self 0, .act self 1, .act self 0]

/-- A second process removes it too, a third one makes it anew, and the first one goes on: the
loop of the third is left by an error of the file system. -/
def removesFreshDirectory : List Move :=
  unlinksMarker 1 ++ looks 2 {} ++ List.replicate 17 (.act 2 0) ++
  [.start 3 {}, .act 3 0, .again 3, .act 3 0, .act 1 0, .act 1 0, .act 3 0]

/-- A second process makes a marker of its own, and the first one goes on: its loop is left by
the error of a directory that is not empty. -/
def removesFreshMarker : List Move :=
  unlinksMarker 1 ++ looks 2 {} ++ [.act 2 0, .act 2 0, .act 1 0, .act 1 0]

theorem leavesAsDocumented_fails :
    (∃ pool, Pool.Reaches (lockScheduler .leaseMutation lockHandler) staleLockPool pool ∧
      pool.threads 2 = some { state := .waiting {} 0, body := .fail .syntaxError } ∧
      ¬ LeavesAsDocumented pool) ∧
    (∃ pool, Pool.Reaches (lockScheduler .leaseMutation lockHandler) staleLockPool pool ∧
      pool.threads 3 = some { state := .waiting {} 0, body := .fail .enoent } ∧
      ¬ LeavesAsDocumented pool) ∧
    ∃ pool, Pool.Reaches (lockScheduler .leaseMutation lockHandler) staleLockPool pool ∧
      pool.threads 1 = some { state := .waiting {} 0, body := .fail .enotempty } ∧
      ¬ LeavesAsDocumented pool := by
  refine ⟨?_, ?_, ?_⟩
  · have hmoves : LockPool.moves .leaseMutation (fun _ => true) staleLockPool
        readsUnwrittenMarker = some _ := rfl
    refine ⟨_, LockPool.reaches_of_moves (fun _ _ _ _ _ _ hstep => hstep) hmoves, rfl, ?_⟩
    exact fun hleaves => hleaves 2 _ _ rfl trivial
  · have hmoves : LockPool.moves .leaseMutation (fun _ => true) staleLockPool
        removesFreshDirectory = some _ := rfl
    refine ⟨_, LockPool.reaches_of_moves (fun _ _ _ _ _ _ hstep => hstep) hmoves, rfl, ?_⟩
    exact fun hleaves => hleaves 3 _ _ rfl trivial
  · have hmoves : LockPool.moves .leaseMutation (fun _ => true) staleLockPool
        removesFreshMarker = some _ := rfl
    refine ⟨_, LockPool.reaches_of_moves (fun _ _ _ _ _ _ hstep => hstep) hmoves, rfl, ?_⟩
    exact fun hleaves => hleaves 1 _ _ rfl trivial

end SimulatorBroker.Lock
