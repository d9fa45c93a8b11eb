import Jmap2Telegram.Store.Codec
import Jmap2Telegram.Transition.Programs

/-!
# The master key file

`load_or_create_key`, one system call at a time, run by any number of processes on one data
directory. The file appears empty, is filled by the writes of `write_all`, which may be short, and
is synced; a call that finds the file there reads it. A process that is stopped takes no further
step, and what it wrote stays; a process that starts later takes its first step later.

* `KeyInv`, `keyInv_step`: what the file holds while its creator is at each of its steps.
* `error_mem_step_iff`: a call fails exactly when it reads the file before it is filled.
* `sound_iff`: so every call returns the same key as long as none does.
-/

namespace Jmap2Telegram

open Transition

/-- The file `master.key`: its bytes and its mode. -/
structure KeyFile where
  bytes : List UInt8
  mode : UInt32
  deriving DecidableEq

/-- The errors of `load_or_create_key` when no call to the system fails: the file is not there when
it is looked at, or it has not the length of a key. -/
inductive KeyError where
  | missing
  | unexpectedLength (length : ℕ)
  deriving DecidableEq

/-- The file, and what the calls returned so far. -/
structure KeyState where
  file : Option KeyFile
  returned : List (Except KeyError Key)

/-- The system calls of `load_or_create_key`. -/
inductive KeyInstr where
  /-- `key_path.exists()`. -/
  | pathExists
  /-- The open with `create_new` and mode 0600. -/
  | createNew
  | fillBytes
  /-- The next write of `write_all`, of the bytes that remain. -/
  | writeAll (key : Key) (rest : List UInt8)
  | syncAll (key : Key)
  | metadata
  | setPermissions
  | read
  deriving DecidableEq

/-- What is up to the outside: the key the generator draws, and how many bytes a write takes. -/
structure KeyAnswer where
  key : Key
  written : ℕ

namespace KeyInstr

/-- Return from the call. -/
def ret (r : Except KeyError Key) (s : KeyState) : KeyState × List KeyInstr :=
  ({ s with returned := s.returned ++ [r] }, [])

/-- What a system call does, and what its process does next. -/
def exec (umask : UInt32) (answer : KeyAnswer) (instr : KeyInstr) (s : KeyState) :
    KeyState × List KeyInstr :=
  match instr with
  | pathExists => (s, if s.file.isSome then [metadata] else [createNew])
  | createNew =>
    match s.file with
    | none => ({ s with file := some ⟨[], 0o600 &&& ~~~umask⟩ }, [fillBytes])
    | some _ => (s, [metadata])
  | fillBytes => (s, [writeAll answer.key answer.key.toList])
  | writeAll key [] => (s, [syncAll key])
  | writeAll key (byte :: rest) =>
    -- a write takes at least one byte
    ({ s with file := s.file.map fun file =>
        { file with bytes := file.bytes ++ byte :: rest.take answer.written } },
      [writeAll key (rest.drop answer.written)])
  | syncAll key => ret (.ok key) s
  | metadata =>
    match s.file with
    | none => ret (.error .missing) s
    | some file =>
      (s, if (file.mode &&& 0o777) &&& ~~~0o600 ≠ 0 then [setPermissions] else [read])
  | setPermissions =>
    ({ s with file := s.file.map fun file => { file with mode := 0o600 } }, [read])
  | read =>
    match s.file with
    | none => ret (.error .missing) s
    | some file =>
      if h : file.bytes.length = keyLen then ret (.ok ⟨file.bytes.toArray, h⟩) s
      else ret (.error (.unexpectedLength file.bytes.length)) s

/-- How many system calls are at most left of a call that is there. -/
def steps : KeyInstr → ℕ
  | pathExists => keyLen + 5
  | createNew => keyLen + 4
  | fillBytes => keyLen + 3
  | writeAll _ rest => rest.length + 2
  | syncAll _ | read => 1
  | setPermissions => 2
  | metadata => 3

end KeyInstr

/-- The directory and the calls on it; no system call waits for another process. -/
abbrev KeySystem := System KeyState KeyInstr

/-- A step of one of the processes. -/
abbrev KeySystem.step (umask : UInt32) : KeySystem → ℕ × KeyAnswer → Option KeySystem :=
  System.step (fun _ _ => false) (KeyInstr.exec umask)

/-- A data directory without a key, and so many processes that start there. -/
def KeySystem.start (processes : ℕ) : KeySystem :=
  ⟨⟨none, []⟩, List.replicate processes [.pathExists]⟩

namespace KeyInstr

/-! ### A call ends -/

/-- Every step brings a call closer to its end. -/
theorem steps_exec (umask : UInt32) (answer : KeyAnswer) (instr : KeyInstr) (s : KeyState) :
    ((instr.exec umask answer s).2.map steps).sum < instr.steps := by
  cases instr with
  | pathExists =>
    rw [exec]
    split <;> simp [steps]
  | createNew =>
    rcases hfile : s.file with - | file <;> simp [exec, hfile, steps]
  | fillBytes => simp [exec, steps]
  | writeAll key rest =>
    cases rest with
    | nil => simp [exec, steps]
    | cons byte rest =>
      simp only [exec, steps, List.map_cons, List.map_nil, List.sum_cons, List.sum_nil,
        List.length_drop, List.length_cons]
      omega
  | syncAll key => simp [exec, ret, steps]
  | metadata =>
    rcases hfile : s.file with - | file
    · simp [exec, hfile, ret, steps]
    · simp only [exec, hfile]
      split <;> simp [steps]
  | setPermissions => simp [exec, steps]
  | read =>
    rcases hfile : s.file with - | file
    · simp [exec, hfile, ret, steps]
    · simp only [exec, hfile]
      split <;> simp [ret, steps]

/-! ### The creator of the file -/

/-- The steps before a process has opened the file. -/
def opens : KeyInstr → Bool
  | pathExists | createNew => true
  | _ => false

/-- The steps of the process that created the file. -/
def creates : KeyInstr → Bool
  | fillBytes | writeAll _ _ | syncAll _ => true
  | _ => false

/-- The steps of the creator before the file is filled. -/
def fills : KeyInstr → Bool
  | fillBytes | writeAll _ (_ :: _) => true
  | _ => false

theorem creates_of_fills {instr : KeyInstr} (h : instr.fills = true) : instr.creates = true := by
  cases instr with
  | fillBytes | writeAll key rest => rfl
  | _ => cases h

theorem creates_of_opens {instr : KeyInstr} (h : instr.opens = true) : instr.creates = false := by
  cases instr with
  | pathExists | createNew => rfl
  | _ => cases h

/-- What the file holds while its creator is at one of its steps. -/
def Leaves (bytes : List UInt8) : KeyInstr → Prop
  | fillBytes => bytes = []
  | writeAll key rest => bytes ++ rest = key.toList
  | syncAll key => bytes = key.toList
  | _ => True

end KeyInstr

/-- The file was created by process `creator`: what it holds, and what was returned. -/
structure Created (s : KeySystem) (file : KeyFile) (creator : ℕ) : Prop where
  /-- Only that process writes, and the file holds what it wrote. -/
  leaves : ∀ (i : ℕ) (p : List KeyInstr), s.tasks[i]? = some p → ∀ instr ∈ p,
    instr.creates = true → i = creator ∧ instr.Leaves file.bytes
  /-- The file is being filled, or has the length of a key. -/
  filled : (∃ p ∈ s.tasks, ∃ instr ∈ p, instr.fills = true) ∨ file.bytes.length = keyLen
  /-- Every key that was returned is the one in the file. -/
  returned : ∀ key, .ok key ∈ s.state.returned → file.bytes = key.toList

/-- The invariant: every process is at one step at most, and nobody has seen a file before it is
there. -/
structure KeyInv (s : KeySystem) : Prop where
  single : ∀ p ∈ s.tasks, p.length ≤ 1
  absent : s.state.file = none →
    s.state.returned = [] ∧ ∀ p ∈ s.tasks, ∀ instr ∈ p, instr.opens = true
  created : ∀ file, s.state.file = some file → ∃ creator, Created s file creator

/-- A process is at a step of the creator that fills the file; it may have been stopped there. -/
def KeySystem.Filling (s : KeySystem) : Prop :=
  ∃ p ∈ s.tasks, ∃ instr ∈ p, instr.fills = true

theorem keyInv_start (processes : ℕ) : KeyInv (.start processes) where
  single p hp := by rw [List.eq_of_mem_replicate hp]; rfl
  absent _ := by
    refine ⟨rfl, fun p hp instr hinstr => ?_⟩
    rw [List.eq_of_mem_replicate hp, List.mem_singleton] at hinstr
    rw [hinstr]
    rfl
  created file hfile := by cases hfile

section

variable {umask : UInt32} {s s' : KeySystem} {e : ℕ × KeyAnswer}

/-- A step of a process takes it from one system call to what follows it. -/
theorem KeyInv.step_cases (h : KeyInv s) (hstep : KeySystem.step umask s e = some s') :
    ∃ instr, s.tasks[e.1]? = some [instr] ∧
      s' = ⟨(instr.exec umask e.2 s.state).1,
        s.tasks.set e.1 (instr.exec umask e.2 s.state).2⟩ := by
  obtain ⟨instr, rest, htask, -, rfl⟩ := System.step_eq_some_iff.mp hstep
  have hsingle := h.single _ (List.mem_of_getElem? htask)
  obtain rfl : rest = [] := by
    rw [List.length_cons] at hsingle
    exact List.eq_nil_of_length_eq_zero (by omega)
  rw [List.append_nil]
  exact ⟨instr, htask, rfl⟩

/-- A task after a step is the one that moved, or stands where it stood. -/
theorem getElem?_set_cases {α : Type} {l : List α} {i j : ℕ} {a b : α}
    (h : (l.set i a)[j]? = some b) : j = i ∧ b = a ∨ j ≠ i ∧ l[j]? = some b := by
  by_cases hj : j = i
  · subst hj
    rw [List.getElem?_set_self'] at h
    obtain ⟨_, -, rfl⟩ := Option.map_eq_some_iff.mp h
    exact .inl ⟨rfl, rfl⟩
  · rw [List.getElem?_set_ne (Ne.symm hj)] at h
    exact .inr ⟨hj, h⟩

variable {file file' : KeyFile} {creator i : ℕ} {instr : KeyInstr} {next : List KeyInstr}
  {state : KeyState}

/-- A step of a process that is not the creator, and does not touch the bytes. -/
theorem Created.quiet (h : Created s file creator) (htask : s.tasks[i]? = some [instr])
    (hinstr : instr.creates = false) (hnext : ∀ n ∈ next, n.creates = false)
    (hbytes : file'.bytes = file.bytes)
    (hreturned : ∀ key, .ok key ∈ state.returned → file.bytes = key.toList) :
    Created ⟨state, s.tasks.set i next⟩ file' creator where
  leaves j p hp n hn hcreates := by
    rw [hbytes]
    obtain ⟨-, rfl⟩ | ⟨-, hp⟩ := getElem?_set_cases hp
    · rw [hnext n hn] at hcreates
      cases hcreates
    · exact h.leaves j p hp n hn hcreates
  filled := by
    rw [hbytes]
    refine h.filled.imp_left fun ⟨p, hp, n, hn, hfills⟩ => ⟨p, ?_, n, hn, hfills⟩
    -- the process that fills the file is another one
    obtain ⟨j, hj⟩ := List.mem_iff_getElem?.mp hp
    have hne : i ≠ j := by
      rintro rfl
      cases htask.symm.trans hj
      rw [List.mem_singleton.mp hn] at hfills
      rw [KeyInstr.creates_of_fills hfills] at hinstr
      cases hinstr
    refine List.mem_iff_getElem?.mpr ⟨j, ?_⟩
    rwa [List.getElem?_set_ne hne]
  returned key hkey := hbytes.trans (hreturned key hkey)

/-- A step of the creator. -/
theorem Created.advance (h : Created s file creator) (htask : s.tasks[i]? = some [instr])
    (hinstr : instr.creates = true) (hleaves : ∀ n ∈ next, n.Leaves file'.bytes)
    (hfilled : (∃ n ∈ next, n.fills = true) ∨ file'.bytes.length = keyLen)
    (hreturned : ∀ key, .ok key ∈ state.returned → file'.bytes = key.toList) :
    Created ⟨state, s.tasks.set i next⟩ file' creator where
  leaves j p hp n hn hcreates := by
    have hi : i = creator := (h.leaves i _ htask instr (by simp) hinstr).1
    obtain ⟨rfl, rfl⟩ | ⟨hj, hp⟩ := getElem?_set_cases hp
    · exact ⟨hi, hleaves n hn⟩
    · exact absurd ((h.leaves j p hp n hn hcreates).1.trans hi.symm) hj
  filled := by
    refine hfilled.imp_left fun ⟨n, hn, hfills⟩ => ⟨next, ?_, n, hn, hfills⟩
    obtain ⟨hlt, -⟩ := List.getElem?_eq_some_iff.mp htask
    exact List.mem_iff_getElem?.mpr ⟨i, List.getElem?_set_self hlt⟩
  returned := hreturned

/-- A call goes on with one system call and returns nothing, or it ends and returns once. -/
theorem KeyInstr.exec_cases (umask : UInt32) (answer : KeyAnswer) (instr : KeyInstr)
    (s : KeyState) :
    (∃ n, (instr.exec umask answer s).2 = [n]) ∧
        (instr.exec umask answer s).1.returned = s.returned ∨
      (instr.exec umask answer s).2 = [] ∧
        ∃ r, (instr.exec umask answer s).1.returned = s.returned ++ [r] := by
  cases instr with
  | pathExists =>
    refine .inl ⟨?_, rfl⟩
    simp only [exec]
    split <;> simp
  | createNew => rcases hfile : s.file with - | file <;> simp [exec, hfile]
  | writeAll key rest => cases rest <;> simp [exec]
  | metadata =>
    rcases hfile : s.file with - | file
    · simp [exec, hfile, ret]
    · simp only [exec, hfile]
      split <;> simp
  | read =>
    rcases hfile : s.file with - | file
    · simp [exec, hfile, ret]
    · simp only [exec, hfile]
      split <;> simp [ret]
  | fillBytes | syncAll key | setPermissions => simp [exec, ret]

/-- Nothing follows a system call but one other. -/
theorem KeyInstr.length_exec_le (umask : UInt32) (answer : KeyAnswer) (instr : KeyInstr)
    (s : KeyState) : (instr.exec umask answer s).2.length ≤ 1 := by
  obtain ⟨⟨n, hnext⟩, -⟩ | ⟨hnext, -⟩ := instr.exec_cases umask answer s <;> simp [hnext]

/-- A creator that has bytes left to write has not filled the file, so nobody has read a key. -/
theorem Created.not_returned (h : Created s file creator) {key key' : Key} {byte : UInt8}
    {rest : List UInt8} (htask : s.tasks[i]? = some [.writeAll key (byte :: rest)]) :
    .ok key' ∉ s.state.returned := by
  intro hkey
  have hleaves : file.bytes ++ byte :: rest = key.toList :=
    (h.leaves i _ htask _ (List.mem_singleton_self _) rfl).2
  have hlength := congrArg List.length hleaves
  rw [h.returned key' hkey, List.length_append, List.length_cons, Vector.length_toList,
    Vector.length_toList] at hlength
  omega

/-- What a step makes of a file that is there. -/
theorem Created.step (h : Created s file creator) (hfile : s.state.file = some file)
    (htask : s.tasks[i]? = some [instr]) (answer : KeyAnswer) :
    ∃ file', (instr.exec umask answer s.state).1.file = some file' ∧
      Created ⟨(instr.exec umask answer s.state).1,
        s.tasks.set i (instr.exec umask answer s.state).2⟩ file' creator := by
  -- a key that is returned is the one in the file
  have hret : ∀ (r : Except KeyError Key), (∀ key, r = .ok key → file.bytes = key.toList) →
      ∀ key, .ok key ∈ s.state.returned ++ [r] → file.bytes = key.toList := by
    intro r hr key hkey
    rw [List.mem_append, List.mem_singleton] at hkey
    rcases hkey with hkey | hkey
    · exact h.returned key hkey
    · exact hr key hkey.symm
  have hleaves := h.leaves i _ htask instr (by simp)
  cases instr with
  | pathExists =>
    refine ⟨file, hfile, h.quiet htask rfl ?_ rfl h.returned⟩
    simp [KeyInstr.exec, hfile, KeyInstr.creates]
  | createNew =>
    simp only [KeyInstr.exec, hfile]
    exact ⟨file, rfl, h.quiet htask rfl (by simp [KeyInstr.creates]) rfl h.returned⟩
  | fillBytes =>
    have hempty : file.bytes = [] := (hleaves rfl).2
    refine ⟨file, hfile, h.advance htask rfl ?_ (.inl ⟨_, List.mem_singleton_self _, ?_⟩)
      h.returned⟩
    · intro n hn
      rw [KeyInstr.exec, List.mem_singleton] at hn
      rw [hn, KeyInstr.Leaves, hempty, List.nil_append]
    · rcases hlist : answer.key.toList with - | ⟨byte, rest⟩
      · have hlength := congrArg List.length hlist
        rw [Vector.length_toList] at hlength
        cases hlength
      · rfl
  | writeAll key rest =>
    have hrest : file.bytes ++ rest = key.toList := (hleaves rfl).2
    cases rest with
    | nil =>
      rw [List.append_nil] at hrest
      refine ⟨file, hfile, h.advance htask rfl ?_ (.inr ?_) h.returned⟩
      · intro n hn
        rw [KeyInstr.exec, List.mem_singleton] at hn
        rw [hn]
        exact hrest
      · rw [hrest, Vector.length_toList]
    | cons byte rest =>
      have hwritten : (file.bytes ++ byte :: rest.take answer.written) ++
          rest.drop answer.written = key.toList := by
        rw [← hrest, List.append_assoc, List.cons_append, List.take_append_drop]
      simp only [KeyInstr.exec, hfile, Option.map_some]
      refine ⟨_, rfl, h.advance htask rfl ?_ ?_ fun key' hkey => ?_⟩
      · intro n hn
        rw [List.mem_singleton] at hn
        rw [hn]
        exact hwritten
      -- either bytes remain, or the file has them all
      · rcases hdrop : rest.drop answer.written with - | ⟨byte', rest'⟩
        · rw [hdrop, List.append_nil] at hwritten
          exact .inr (by rw [hwritten, Vector.length_toList])
        · exact .inl ⟨_, List.mem_singleton_self _, rfl⟩
      · exact absurd hkey (h.not_returned htask)
  | syncAll key =>
    have hbytes : file.bytes = key.toList := (hleaves rfl).2
    refine ⟨file, hfile, h.advance htask rfl (by simp [KeyInstr.exec, KeyInstr.ret])
      (.inr (by rw [hbytes, Vector.length_toList])) (hret _ fun key' hkey => ?_)⟩
    cases hkey
    exact hbytes
  | metadata =>
    simp only [KeyInstr.exec, hfile]
    refine ⟨file, rfl, h.quiet htask rfl ?_ rfl h.returned⟩
    split <;> simp [KeyInstr.creates]
  | setPermissions =>
    simp only [KeyInstr.exec, hfile, Option.map_some]
    exact ⟨_, rfl, h.quiet htask rfl (by simp [KeyInstr.creates]) rfl h.returned⟩
  | read =>
    simp only [KeyInstr.exec, hfile]
    split
    case isTrue hlength =>
      refine ⟨file, hfile, h.quiet htask rfl (by simp [KeyInstr.ret]) rfl
        (hret _ fun key' hkey => ?_)⟩
      cases hkey
      simp [Vector.toList]
    case isFalse =>
      refine ⟨file, hfile, h.quiet htask rfl (by simp [KeyInstr.ret]) rfl
        (hret _ fun key' hkey => ?_)⟩
      cases hkey

/-- **The invariant is kept** by every step of every process. -/
theorem keyInv_step (h : KeyInv s) (hstep : KeySystem.step umask s e = some s') : KeyInv s' := by
  obtain ⟨instr, htask, rfl⟩ := h.step_cases hstep
  have hsingle : ∀ p ∈ s.tasks.set e.1 (instr.exec umask e.2 s.state).2, p.length ≤ 1 := by
    intro p hp
    rcases List.mem_or_eq_of_mem_set hp with hp | rfl
    · exact h.single p hp
    · exact KeyInstr.length_exec_le _ _ _ _
  rcases hfile : s.state.file with - | file
  · obtain ⟨hreturned, hopens⟩ := h.absent hfile
    have hopen := hopens _ (List.mem_of_getElem? htask) instr (by simp)
    cases instr with
    | pathExists =>
      refine ⟨hsingle, fun _ => ⟨hreturned, fun p hp n hn => ?_⟩, fun file hsome => ?_⟩
      · rcases List.mem_or_eq_of_mem_set hp with hp | rfl
        · exact hopens p hp n hn
        · simp only [KeyInstr.exec, hfile, Option.isSome_none, Bool.false_eq_true, if_false,
            List.mem_singleton] at hn
          rw [hn]
          rfl
      · cases hfile.symm.trans hsome
    | createNew =>
      simp only [KeyInstr.exec, hfile] at hsingle ⊢
      refine KeyInv.mk hsingle (fun hnone => by cases hnone) fun file hsome => ⟨e.1, ?_⟩
      cases hsome
      refine ⟨fun j p hp n hn hcreates => ?_, .inl ?_, fun key hkey => ?_⟩
      · obtain ⟨rfl, rfl⟩ | ⟨-, hp⟩ := getElem?_set_cases hp
        · rw [List.mem_singleton] at hn
          rw [hn]
          exact ⟨rfl, rfl⟩
        · rw [KeyInstr.creates_of_opens (hopens p (List.mem_of_getElem? hp) n hn)] at hcreates
          cases hcreates
      · obtain ⟨hlt, -⟩ := List.getElem?_eq_some_iff.mp htask
        exact ⟨_, List.mem_iff_getElem?.mpr ⟨e.1, List.getElem?_set_self hlt⟩, _,
          List.mem_singleton_self _, rfl⟩
      · rw [hreturned] at hkey
        cases hkey
    | _ => cases hopen
  · obtain ⟨creator, hcreated⟩ := h.created file hfile
    obtain ⟨file', hfile', hcreated'⟩ := hcreated.step hfile htask e.2
    refine ⟨hsingle, fun hnone => ?_, fun file'' hsome => ⟨creator, ?_⟩⟩
    · cases hfile'.symm.trans hnone
    · cases hfile'.symm.trans hsome
      exact hcreated'

/-! ### What is returned -/

/-- A file that is being filled is shorter than a key. -/
theorem Created.length_ne (h : Created s file creator) (hfilling : s.Filling) :
    file.bytes.length ≠ keyLen := by
  obtain ⟨p, hp, n, hn, hfills⟩ := hfilling
  obtain ⟨j, hj⟩ := List.mem_iff_getElem?.mp hp
  have hleaves := (h.leaves j p hj n hn (KeyInstr.creates_of_fills hfills)).2
  cases n with
  | fillBytes =>
    rw [show file.bytes = [] from hleaves]
    decide
  | writeAll key rest =>
    cases rest with
    | nil => cases hfills
    | cons byte rest =>
      have hlength := congrArg List.length (show file.bytes ++ byte :: rest = key.toList
        from hleaves)
      rw [List.length_append, List.length_cons, Vector.length_toList] at hlength
      omega
  | _ => cases hfills

/-- **A call fails exactly when it reads a file that is being filled.** -/
theorem error_mem_step_iff (h : KeyInv s) (htask : s.tasks[i]? = some [instr])
    (answer : KeyAnswer) :
    (∃ err, .error err ∈ (instr.exec umask answer s.state).1.returned) ↔
      (∃ err, .error err ∈ s.state.returned) ∨ instr = .read ∧ s.Filling := by
  have hsame : instr ≠ .read →
      (instr.exec umask answer s.state).1.returned = s.state.returned ∨
        (∃ key, (instr.exec umask answer s.state).1.returned = s.state.returned ++ [.ok key]) →
      ((∃ err, .error err ∈ (instr.exec umask answer s.state).1.returned) ↔
        (∃ err, .error err ∈ s.state.returned) ∨ instr = .read ∧ s.Filling) := by
    intro hread hreturned
    rw [or_iff_left fun hr => hread hr.1]
    rcases hreturned with heq | ⟨key, heq⟩ <;> simp [heq]
  -- nobody looks at a file that is not there
  have hfile : instr.opens = false → ∃ file, s.state.file = some file := by
    intro hopens
    rw [← Option.ne_none_iff_exists']
    intro hnone
    have hall := (h.absent hnone).2 _ (List.mem_of_getElem? htask) instr (by simp)
    rw [hall] at hopens
    cases hopens
  cases instr with
  | pathExists => exact hsame (by simp) (.inl rfl)
  | createNew =>
    refine hsame (by simp) (.inl ?_)
    rcases hcreated : s.state.file with - | file <;> simp [KeyInstr.exec, hcreated]
  | fillBytes | setPermissions => exact hsame (by simp) (.inl rfl)
  | writeAll key rest => cases rest <;> exact hsame (by simp) (.inl rfl)
  | syncAll key => exact hsame (by simp) (.inr ⟨key, rfl⟩)
  | metadata =>
    obtain ⟨file, hfile⟩ := hfile rfl
    exact hsame (by simp) (.inl (by simp only [KeyInstr.exec, hfile]))
  | read =>
    obtain ⟨file, hfile⟩ := hfile rfl
    obtain ⟨creator, hcreated⟩ := h.created file hfile
    simp only [KeyInstr.exec, hfile, true_and]
    split
    case isTrue hlength =>
      have hnot : ¬s.Filling := fun hfilling => hcreated.length_ne hfilling hlength
      simp [KeyInstr.ret, hnot]
    case isFalse hlength =>
      have hfilling : s.Filling := hcreated.filled.resolve_right hlength
      refine iff_of_true ⟨.unexpectedLength file.bytes.length, ?_⟩ (.inr hfilling)
      rw [KeyInstr.ret, List.mem_append]
      exact .inr (List.mem_singleton_self _)

/-- Two keys that were returned are the same. -/
theorem KeyInv.agree (h : KeyInv s) {key key' : Key} (hkey : .ok key ∈ s.state.returned)
    (hkey' : .ok key' ∈ s.state.returned) : key = key' := by
  rcases hfile : s.state.file with - | file
  · rw [(h.absent hfile).1] at hkey
    cases hkey
  · obtain ⟨creator, hcreated⟩ := h.created file hfile
    exact Vector.toList_inj.mp
      ((hcreated.returned key hkey).symm.trans (hcreated.returned key' hkey'))

end

/-! ### Runs -/

/-- Every call that has ended has returned a key, and all of them the same. -/
structure KeySystem.Sound (s : KeySystem) : Prop where
  ended : s.tasks.countP List.isEmpty = s.state.returned.length
  ok : ∀ r ∈ s.state.returned, ∃ key, r = .ok key
  agree : ∀ key key', .ok key ∈ s.state.returned → .ok key' ∈ s.state.returned → key = key'

/-- A process that is about to read the file finds no process filling it, and none that was stopped
while it did. -/
def KeySystem.ReadsFilled (s : KeySystem) (i : ℕ) : Prop :=
  s.tasks[i]?.bind List.head? = some .read → ¬s.Filling

section

variable {umask : UInt32} {processes : ℕ}
  (x : Execution (KeySystem.step umask) (.start processes))

theorem keyInv_state {k : ℕ} (hk : k ≤ x.events.length) : KeyInv (x.state k) :=
  x.induction (fun _ s => KeyInv s) (keyInv_start processes)
    (fun _ _ h hstep => keyInv_step h hstep) hk

/-- So many calls have returned as have ended. -/
theorem ended_state {k : ℕ} (hk : k ≤ x.events.length) :
    (x.state k).tasks.countP List.isEmpty = (x.state k).state.returned.length := by
  refine x.induction (fun _ s => s.tasks.countP List.isEmpty = s.state.returned.length) ?_
    (fun k hk h hstep => ?_) hk
  · simp [KeySystem.start, List.countP_replicate]
  · obtain ⟨instr, htask, heq⟩ := (keyInv_state x hk.le).step_cases hstep
    obtain ⟨hlt, htask⟩ := List.getElem?_eq_some_iff.mp htask
    rw [heq]
    simp only [List.countP_set hlt, htask, List.isEmpty_cons, Bool.false_eq_true, if_false,
      Nat.sub_zero]
    rcases instr.exec_cases umask x.events[k].2 (x.state k).state with
      ⟨⟨n, hnext⟩, hsame⟩ | ⟨hnext, r, hsame⟩
    · rw [hsame, hnext, List.isEmpty_cons, if_neg Bool.false_ne_true, Nat.add_zero, h]
    · rw [hsame, hnext, List.length_append, h]
      rfl

/-- What is left of a process's call. -/
def KeySystem.left (s : KeySystem) (i : ℕ) : ℕ := ((s.tasks[i]?.getD []).map KeyInstr.steps).sum

/-- **A call ends**, after so many of its steps at most. -/
theorem countP_events_le (i : ℕ) :
    x.events.countP (fun e => e.1 == i) ≤ keyLen + 5 := by
  have hleft : ∀ k, k ≤ x.events.length →
      (x.state k).left i + (x.events.take k).countP (fun e => e.1 == i) ≤ keyLen + 5 := by
    intro k hk
    refine x.induction (fun k s => s.left i + (x.events.take k).countP (fun e => e.1 == i) ≤
      keyLen + 5) ?_ (fun k hk h hstep => ?_) hk
    · rw [List.take_zero, List.countP_nil, KeySystem.left, KeySystem.start]
      rw [List.getElem?_replicate]
      split <;> simp [KeyInstr.steps]
    · obtain ⟨instr, htask, heq⟩ := (keyInv_state x hk.le).step_cases hstep
      rw [List.take_succ_eq_append_getElem hk, List.countP_append, List.countP_singleton, heq]
      rw [KeySystem.left] at h ⊢
      obtain ⟨hlt, -⟩ := List.getElem?_eq_some_iff.mp htask
      by_cases hi : x.events[k].1 = i
      · have hless := instr.steps_exec umask x.events[k].2 (x.state k).state
        rw [hi] at htask hlt
        rw [htask, Option.getD_some, List.map_singleton, List.sum_singleton] at h
        simp only [hi, List.getElem?_set_self hlt, Option.getD_some, beq_self_eq_true, if_true]
        omega
      · simp only [List.getElem?_set_ne hi, beq_eq_false_iff_ne.mpr hi, Bool.false_eq_true,
          if_false, Nat.add_zero]
        exact h
  have h := hleft x.events.length le_rfl
  rw [List.take_length] at h
  omega

/-- No call has failed when every read so far was of a filled file. -/
theorem not_error_state (hread : ∀ k (hk : k < x.events.length),
    (x.state k).ReadsFilled x.events[k].1) {k : ℕ} (hk : k ≤ x.events.length) :
    ¬∃ err, .error err ∈ (x.state k).state.returned := by
  refine x.induction (fun _ s => ¬∃ err, .error err ∈ s.state.returned) ?_
    (fun k hk h hstep => ?_) hk
  · simp [KeySystem.start]
  · have hinv := keyInv_state x hk.le
    obtain ⟨instr, htask, heq⟩ := hinv.step_cases hstep
    rw [heq, error_mem_step_iff hinv htask, not_or]
    refine ⟨h, ?_⟩
    rintro ⟨rfl, hfilling⟩
    exact hread k hk (by rw [htask]; rfl) hfilling

/-- **The exact condition.** A call ends after so many of its steps, and every call that ends in a
run returns the same key, if and only if no call of the run reads the file while its creator is
filling it, or was stopped while it did. -/
theorem sound_iff : (∀ i, x.events.countP (fun e => e.1 == i) ≤ keyLen + 5) ∧
    ((∀ k, k ≤ x.events.length → (x.state k).Sound) ↔
      ∀ k (hk : k < x.events.length), (x.state k).ReadsFilled x.events[k].1) := by
  refine ⟨countP_events_le x, fun h k hk hread hfilling => ?_, fun h k hk => ?_⟩
  · have hinv := keyInv_state x hk.le
    obtain ⟨instr, htask, heq⟩ := hinv.step_cases (x.state_succ hk)
    -- the read fails, and so does the call
    have hinstr : instr = .read := by
      rw [htask] at hread
      exact Option.some.inj hread
    have herror : ∃ err, .error err ∈
        (instr.exec umask x.events[k].2 (x.state k).state).1.returned :=
      (error_mem_step_iff hinv htask _).mpr (.inr ⟨hinstr, hfilling⟩)
    obtain ⟨err, herr⟩ := herror
    obtain ⟨key, hkey⟩ := (h (k + 1) hk).ok (.error err) (by rw [heq]; exact herr)
    cases hkey
  · refine ⟨ended_state x hk, fun r hr => ?_, fun _ _ => (keyInv_state x hk).agree⟩
    cases r with
    | ok key => exact ⟨key, rfl⟩
    | error err => exact absurd ⟨err, hr⟩ (not_error_state x h hk)

end

/-- What the outside answers in the run below. -/
def zeroKeyAnswer : KeyAnswer := ⟨Vector.replicate keyLen 0, 0⟩

/-- Two processes: the first is stopped once it has created the file, and the second reads it. -/
def stoppedRun : Execution (KeySystem.step 0o022) (.start 2) where
  events := [(0, zeroKeyAnswer), (0, zeroKeyAnswer), (1, zeroKeyAnswer), (1, zeroKeyAnswer),
    (1, zeroKeyAnswer)]
  enabled := rfl

/-- The second process is refused, and so is every later one. -/
theorem not_forall_sound : ¬∀ (x : Execution (KeySystem.step 0o022) (.start 2)) (k : ℕ),
    k ≤ x.events.length → (x.state k).Sound := by
  intro h
  have hreturned : (stoppedRun.state 5).state.returned = [.error (.unexpectedLength 0)] := rfl
  obtain ⟨key, hkey⟩ := (h stoppedRun 5 (le_refl 5)).ok (.error (.unexpectedLength 0))
    (by simp [hreturned])
  cases hkey

end Jmap2Telegram
