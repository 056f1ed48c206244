import Xencons.Registry.Unicode
import Xencons.Util.Strtok

/-!
# The keys along a path (registry.c)

`RegistryCreateKey` copies the path and takes it apart at the backslashes. `Parent` is first the
caller's handle or that of the root, and then the key that has just been created; `Root` is kept so
that the caller's handle is not closed with the others.

* `Handles` -- the open handles, and what has been done with them; `Kernel` -- what answers;
* `registryOpenRoot`, `createLoop`, `registryCreateKey` -- as the code has them; a handle that is
  closed without being open is `none`, like a read outside of the buffer;
* `Underway` -- what holds at the head of the loop: `underway_create`, `createLoop_components`;
  `wcsnicmp_eq` -- which paths start with the root;
* `Created`, `Refused` -- what is to come of it, and what an error comes from;
  **`registryCreateKey_created`**.
-/

namespace Xencons.Registry

open Lib Util

/-! ## 1. The kernel -/

/-- A `HANDLE`; `NULL` is 0. -/
abbrev Handle := Nat

/-- What is done with handles. -/
inductive Event where
  /-- the root has been opened -/
  | root (h : Handle)
  | created (parent : Handle) (name : List UInt16) (h : Handle)
  | closed (h : Handle)
deriving DecidableEq

structure Handles where
  opened : List Handle
  events : List Event
deriving DecidableEq

/-- A handle that may be given away. -/
def Handles.Fresh (s : Handles) (h : Handle) : Prop := h ≠ 0 ∧ h ∉ s.opened

/-- **What the kernel answers**, whatever has been done before: a handle it gives is not `NULL` and
    is not that of something open; a key is created under an open one; a name has 255 characters at
    most. -/
structure Kernel where
  zwOpenKey : Handles → List UInt16 → Except Status Handle
  zwCreateKey : Handles → Handle → List UInt16 → Nat → Except Status Handle
  open_fresh : ∀ s path h, zwOpenKey s path = .ok h → s.Fresh h
  create_fresh : ∀ s parent name options h,
    zwCreateKey s parent name options = .ok h → s.Fresh h
  create_parent : ∀ s parent name options h,
    zwCreateKey s parent name options = .ok h → parent ∈ s.opened
  create_name : ∀ s parent name options h,
    zwCreateKey s parent name options = .ok h → name.length ≤ 255

namespace Handles

/-- `ZwClose` -/
def zwClose (h : Handle) (s : Handles) : Option Handles :=
  if h ∈ s.opened then some ⟨s.opened.erase h, s.events ++ [.closed h]⟩ else none

/-- `if (Parent != Root) ZwClose(Parent)` -/
def closeUnless (root parent : Handle) (s : Handles) : Option Handles :=
  if parent ≠ root then s.zwClose parent else some s

def openRoot (h : Handle) (s : Handles) : Handles := ⟨h :: s.opened, s.events ++ [.root h]⟩

def create (parent : Handle) (name : List UInt16) (h : Handle) (s : Handles) : Handles :=
  ⟨h :: s.opened, s.events ++ [.created parent name h]⟩

end Handles

/-! ## 2. The functions -/

/-- `L"\\Registry\\Machine\\"` -/
def rootPrefix : List UInt16 :=
  [92, 82, 101, 103, 105, 115, 116, 114, 121, 92, 77, 97, 99, 104, 105, 110, 101, 92]

def towlower (c : UInt16) : UInt16 := if 65 ≤ c ∧ c ≤ 90 then c + 32 else c

/-- `_wcsnicmp(…, Prefix, wcslen(Prefix)) == 0`, with what the memory has. -/
def wcsnicmp : List UInt16 → List UInt16 → Option Bool
  | _, [] => some true
  | [], _ :: _ => none
  | c :: m, p :: text => if towlower c = towlower p then wcsnicmp m text else some false

/-- `RegistryOpenRoot`: the parent, and where the child path starts. -/
def registryOpenRoot (kernel : Kernel) (m : List UInt16) (s : Handles) :
    Option (Except Status (Handle × Nat) × Handles) := do
  if ← wcsnicmp m rootPrefix then
    match kernel.zwOpenKey s rootPrefix with
    | .error status => some (.error status, s)
    | .ok h => some (.ok (h, rootPrefix.length), s.openRoot h)
  else some (.error .invalidParameter, s)

/-- The loop, which takes a character of the path at least each time; `Child` if it succeeds. -/
def createLoop (kernel : Kernel) (options : Nat) (root : Handle) :
    Nat → Nat → Option Nat → Handle → List UInt16 → Handles →
      Option (Except Status Handle × Handles)
  | 0, _, _, _, _, _ => none
  | left + 1, childName, context, parent, m, s => do
    let name ← rtlInitUnicodeString (m.drop childName)
    match kernel.zwCreateKey s parent name options with
    | .error status =>
      -- fail4
      let s ← s.closeUnless root parent
      some (.error status, s)
    | .ok child =>
      let (next, context, m) ← wcstokR [92] none context m
      let s ← (s.create parent name child).closeUnless root parent
      match next with
      | none => some (.ok child, s)
      | some childName => createLoop kernel options root left childName context child m s

/-- `RegistryCreateKey`, from the first call of `__wcstok_r` on. -/
def createKeys (kernel : Kernel) (options : Nat) (root : Handle) (childPath : Nat)
    (parent : Handle) (m : List UInt16) (s : Handles) :
    Option (Except Status Handle × Handles) := do
  let (childName, context, m) ← wcstokR [92] (some childPath) none m
  match childName with
  | none =>
    -- fail3
    let s ← s.closeUnless root parent
    some (.error .invalidParameter, s)
  | some childName => createLoop kernel options root m.length childName context parent m s

/-- A `UNICODE_STRING` with the characters of its buffer; the buffer need not end with a NUL. -/
structure UnicodeString where
  buffer : List UInt16
  maximumLength : Nat
  fits : 2 * buffer.length ≤ maximumLength
  maximumLength_lt : maximumLength < 2 ^ 16

/-- `Buffer`: it has been zeroed, and has the path. -/
def UnicodeString.copied (path : UnicodeString) : List UInt16 :=
  path.buffer ++ List.replicate (path.maximumLength / 2 + 1 - path.buffer.length) 0

/-- `RegistryCreateKey`; `allocated` says whether there is a buffer. -/
def registryCreateKey (kernel : Kernel) (allocated : Bool) (parent : Handle) (path : UnicodeString)
    (options : Nat) (s : Handles) : Option (Except Status Handle × Handles) := do
  if allocated then
    let m := path.copied
    let root := parent
    if parent ≠ 0 then createKeys kernel options root 0 parent m s
    else
      match ← registryOpenRoot kernel m s with
      | (.error status, s) => some (.error status, s)
      | (.ok (parent, childPath), s) => createKeys kernel options root childPath parent m s
  else some (.error .noMemory, s)

/-! ## 3. What is to come of it -/

section Events

/-- The handles that have been opened, in this order. -/
def opens (events : List Event) : List Handle :=
  events.filterMap fun
    | .root h | .created _ _ h => some h
    | .closed _ => none

def closes (events : List Event) : List Handle :=
  events.filterMap fun
    | .closed h => some h
    | _ => none

def roots (events : List Event) : List Handle :=
  events.filterMap fun
    | .root h => some h
    | _ => none

/-- The keys that have been created: the parent, the name and the handle. -/
def keys (events : List Event) : List (Handle × List UInt16 × Handle) :=
  events.filterMap fun
    | .created parent name h => some (parent, name, h)
    | _ => none

variable (es es' : List Event) (hs : List Handle) (parent : Handle) (name : List UInt16)
  (h : Handle)

@[simp] theorem opens_append : opens (es ++ es') = opens es ++ opens es' := List.filterMap_append

@[simp] theorem closes_append : closes (es ++ es') = closes es ++ closes es' :=
  List.filterMap_append

@[simp] theorem roots_append : roots (es ++ es') = roots es ++ roots es' := List.filterMap_append

@[simp] theorem keys_append : keys (es ++ es') = keys es ++ keys es' := List.filterMap_append

@[simp] theorem opens_closed : opens (hs.map .closed) = [] := by
  simp [opens]

@[simp] theorem closes_closed : closes (hs.map .closed) = hs := by
  simp [closes]

@[simp] theorem roots_closed : roots (hs.map .closed) = [] := by
  simp [roots]

@[simp] theorem keys_closed : keys (hs.map .closed) = [] := by
  simp [keys]

@[simp] theorem opens_created : opens (.created parent name h :: es) = h :: opens es := rfl

@[simp] theorem closes_created : closes (.created parent name h :: es) = closes es := rfl

@[simp] theorem roots_created : roots (.created parent name h :: es) = roots es := rfl

@[simp] theorem keys_created :
    keys (.created parent name h :: es) = (parent, name, h) :: keys es := rfl

end Events

/-- What is between the backslashes, where there is something. -/
def components (path : List UInt16) : List (List UInt16) := tokens ([92].contains ·) path

/-- The components that are to be created: a NUL ends the path, and without a parent it starts with
    the root, in whatever case. -/
def keyPath (parent : Handle) (path : List UInt16) : List (List UInt16) :=
  let text := path.takeWhile (· ≠ 0)
  if parent ≠ 0 then components text
  else if (text.take rootPrefix.length).map towlower = rootPrefix.map towlower then
    components (text.drop rootPrefix.length)
  else []

/-- The path starts with the root. -/
def Rooted (path : List UInt16) : Prop :=
  ((path.takeWhile (· ≠ 0)).take rootPrefix.length).map towlower = rootPrefix.map towlower

/-- Every handle is one the kernel has given, when it was asked for the root or for that key. -/
structure Given (kernel : Kernel) (options : Nat) (opened : List Handle) (s : Handles) :
    Prop where
  root : ∀ h ∈ roots s.events, kernel.zwOpenKey ⟨opened, []⟩ rootPrefix = .ok h
  key : ∀ k ∈ keys s.events, ∃ before : Handles, before.events <+: s.events ∧
    kernel.zwCreateKey before k.1 k.2.1 options = .ok k.2.2

/-- The handle that is to be closed. -/
def held (root parent : Handle) : List Handle := if parent = root then [] else [parent]

/-- **At the head of the loop**: these components have been created, and nothing else is open but
    `Parent`, where it is not the caller's. -/
structure Underway (kernel : Kernel) (options : Nat) (root : Handle) (opened : List Handle)
    (parent : Handle) (done : List (List UInt16)) (s : Handles) : Prop where
  names : (keys s.events).map (·.2.1) = done
  under : (keys s.events).map (·.1) ++ [parent] =
    (if root ≠ 0 then [root] else roots s.events) ++ (keys s.events).map (·.2.2)
  given : Given kernel options opened s
  kept : root ∉ closes s.events
  balance : opens s.events = closes s.events ++ held root parent
  table : s.opened = held root parent ++ opened
  caller : parent ≠ root → root = 0 ∨ root ∈ opened

/-- **What has been done once the function returns**: some of the components have been created,
    from left to right, each under the one ahead of it; and what has been opened has been closed, in
    the same order, but for the last handle where that is returned. -/
structure Created (kernel : Kernel) (options : Nat) (parent : Handle)
    (names : List (List UInt16)) (opened : List Handle) (result : Except Status Handle)
    (s : Handles) : Prop where
  order : (keys s.events).map (·.2.1) <+: names
  under : (keys s.events).map (·.1) =
    ((if parent ≠ 0 then [parent] else roots s.events) ++ (keys s.events).map (·.2.2)).dropLast
  given : Given kernel options opened s
  kept : parent ∉ closes s.events
  success : ∀ h, result = .ok h → names ≠ [] ∧ (keys s.events).map (·.2.1) = names ∧
    ((keys s.events).map (·.2.2)).getLast? = some h ∧ opens s.events = closes s.events ++ [h] ∧
    s.opened = h :: opened
  failure : ∀ status, result = .error status →
    (names = [] ∨ (keys s.events).map (·.2.1) ≠ names) ∧ opens s.events = closes s.events ∧
    s.opened = opened

/-- The kernel refuses one of the components: those ahead of it have been created and no other, and
    `Parent` is closed unless it is the caller's. -/
def Denied (kernel : Kernel) (options : Nat) (root : Handle) (names : List (List UInt16))
    (opened : List Handle) (status : Status) (s : Handles) : Prop :=
  ∃ done name rest parent before, names = done ++ name :: rest ∧
    Underway kernel options root opened parent done before ∧
    kernel.zwCreateKey before parent (name.take maxUstring) options = .error status ∧
    before.closeUnless root parent = some s

/-- **What has refused**, where the function returns `status` and leaves `s`. -/
inductive Refused (kernel : Kernel) (options : Nat) (allocated : Bool) (parent : Handle)
    (path : List UInt16) (opened : List Handle) (status : Status) (s : Handles) : Prop where
  /-- the pool -/
  | pool (h : allocated = false) (hstatus : status = .noMemory) (hs : s = ⟨opened, []⟩)
  /-- `RegistryOpenRoot`: the path is not one below the root -/
  | unrooted (hallocated : allocated = true) (hparent : parent = 0) (h : ¬Rooted path)
      (hstatus : status = .invalidParameter) (hs : s = ⟨opened, []⟩)
  /-- `RegistryOpenRoot`: the root is not opened -/
  | root (hallocated : allocated = true) (hparent : parent = 0) (hroot : Rooted path)
      (h : kernel.zwOpenKey ⟨opened, []⟩ rootPrefix = .error status) (hs : s = ⟨opened, []⟩)
  /-- the path has no component -/
  | empty {under : Handle} {before : Handles} (hallocated : allocated = true)
      (hroot : parent = 0 → Rooted path) (h : keyPath parent path = [])
      (hstatus : status = .invalidParameter)
      (hu : Underway kernel options parent opened under [] before)
      (hs : before.closeUnless parent under = some s)
  /-- `ZwCreateKey` -/
  | key (hallocated : allocated = true) (hroot : parent = 0 → Rooted path)
      (h : Denied kernel options parent (keyPath parent path) opened status s)

/-! ## 4. The loop -/

theorem notMem_held (root parent : Handle) : root ∉ held root parent := by
  unfold held
  split
  · exact List.not_mem_nil
  · rename_i he
    exact fun hmem => he (List.mem_singleton.mp hmem).symm

section Given

variable {kernel : Kernel} {options : Nat} {opened : List Handle} {s s' : Handles}

/-- Nothing is given where handles are closed. -/
theorem Given.closed (hg : Given kernel options opened s) {hs : List Handle}
    (h : s'.events = s.events ++ hs.map .closed) : Given kernel options opened s' := by
  constructor
  · intro h' hmem
    rw [h, roots_append, roots_closed, List.append_nil] at hmem
    exact hg.root h' hmem
  · intro k hmem
    rw [h, keys_append, keys_closed, List.append_nil] at hmem
    obtain ⟨before, hpre, hk⟩ := hg.key k hmem
    exact ⟨before, hpre.trans (h ▸ List.prefix_append _ _), hk⟩

/-- One more key. -/
theorem Given.create (hg : Given kernel options opened s) {parent h : Handle}
    {name : List UInt16} (hcreate : kernel.zwCreateKey s parent name options = .ok h) :
    Given kernel options opened (s.create parent name h) := by
  have hevents : (s.create parent name h).events = s.events ++ [.created parent name h] := rfl
  constructor
  · intro h' hmem
    have hnone : roots [.created parent name h] = [] := rfl
    rw [hevents, roots_append, hnone, List.append_nil] at hmem
    exact hg.root h' hmem
  · intro k hmem
    rw [hevents, keys_append] at hmem
    rcases List.mem_append.mp hmem with hmem | hmem
    · obtain ⟨before, hpre, hk⟩ := hg.key k hmem
      exact ⟨before, hpre.trans (List.prefix_append _ _), hk⟩
    · obtain rfl := List.mem_singleton.mp hmem
      exact ⟨s, List.prefix_append _ _, hcreate⟩

end Given

section Loop

variable {kernel : Kernel} {options : Nat} {root parent h : Handle} {opened : List Handle}
  {done : List (List UInt16)} {name : List UInt16} {s : Handles}

theorem closeUnless_eq (hu : Underway kernel options root opened parent done s) :
    ∃ s', s.closeUnless root parent = some s' ∧ s'.opened = opened ∧
      s'.events = s.events ++ (held root parent).map .closed := by
  unfold Handles.closeUnless
  by_cases he : parent = root
  · rw [if_neg (not_not_intro he)]
    refine ⟨s, rfl, ?_, ?_⟩
    · rw [hu.table, held, if_pos he, List.nil_append]
    · rw [held, if_pos he, List.map_nil, List.append_nil]
  · have htable := hu.table
    rw [held, if_neg he] at htable
    rw [List.singleton_append] at htable
    rw [if_pos he, Handles.zwClose, htable, if_pos List.mem_cons_self, held, if_neg he]
    exact ⟨_, rfl, List.erase_cons_head .., rfl⟩

/-- **One more is created**, and what was `Parent` is closed. -/
theorem underway_create (hu : Underway kernel options root opened parent done s)
    (hcreate : kernel.zwCreateKey s parent name options = .ok h) :
    h ≠ root ∧ ∃ s', (s.create parent name h).closeUnless root parent = some s' ∧
      Underway kernel options root opened h (done ++ [name]) s' := by
  have hfresh : s.Fresh h := kernel.create_fresh _ _ _ _ _ hcreate
  have hparent : parent ∈ s.opened := kernel.create_parent _ _ _ _ _ hcreate
  have hne : h ≠ parent := fun e => hfresh.2 (e ▸ hparent)
  -- the caller's handle is open all the time
  have hcaller : root = 0 ∨ root ∈ opened := by
    by_cases he : parent = root
    · rw [hu.table, held, if_pos he, List.nil_append, he] at hparent
      exact .inr hparent
    · exact hu.caller he
  have hroot : h ≠ root := by
    rintro rfl
    rcases hcaller with h0 | hmem
    · exact hfresh.1 h0
    · exact hfresh.2 (hu.table ▸ List.mem_append_right _ hmem)
  have hclosed : ∃ s', (s.create parent name h).closeUnless root parent = some s' ∧
      s'.opened = h :: opened ∧
      s'.events = s.events ++ .created parent name h :: (held root parent).map .closed := by
    unfold Handles.closeUnless Handles.create
    by_cases he : parent = root
    · rw [if_neg (not_not_intro he)]
      refine ⟨_, rfl, ?_, ?_⟩
      · rw [hu.table, held, if_pos he, List.nil_append]
      · rw [held, if_pos he, List.map_nil]
    · have htable := hu.table
      rw [held, if_neg he, List.singleton_append] at htable
      rw [if_pos he, Handles.zwClose, htable, if_pos (List.mem_cons_of_mem _ List.mem_cons_self),
        List.erase_cons_tail (by simpa using hne), List.erase_cons_head, held, if_neg he]
      exact ⟨_, rfl, rfl, by simp⟩
  obtain ⟨s', hclose, htable, hevents⟩ := hclosed
  have hheld : held root h = [h] := if_neg hroot
  have hcreated : s'.events = (s.create parent name h).events ++ (held root parent).map .closed := by
    rw [hevents, Handles.create, List.append_assoc, List.singleton_append]
  refine ⟨hroot, s', hclose, ?_, ?_, (hu.given.create hcreate).closed hcreated, ?_, ?_, ?_,
    fun _ => hcaller⟩
  · rw [hevents]
    simp [hu.names]
  · rw [hevents]
    simp only [keys_append, keys_created, keys_closed, roots_append, roots_created, roots_closed,
      List.append_nil, List.map_append, List.map_cons, List.map_nil]
    rw [← List.append_assoc, ← hu.under]
  · rw [hevents]
    simp only [closes_append, closes_created, closes_closed, List.mem_append, not_or]
    exact ⟨hu.kept, notMem_held root parent⟩
  · rw [hevents, hheld]
    simp [hu.balance]
  · rw [htable, hheld, List.singleton_append]

/-- A component is not created: what is still open is closed. -/
theorem Underway.failed (hu : Underway kernel options root opened parent done s)
    {names : List (List UInt16)} (horder : done <+: names) (hstop : names = [] ∨ done ≠ names)
    (status : Status) : ∃ s', s.closeUnless root parent = some s' ∧
      Created kernel options root names opened (.error status) s' := by
  obtain ⟨s', hclose, htable, hevents⟩ := closeUnless_eq hu
  refine ⟨s', hclose, ?_, ?_, hu.given.closed hevents, ?_, nofun, fun _ _ => ⟨?_, ?_, htable⟩⟩
  · rwa [hevents, keys_append, keys_closed, List.append_nil, hu.names]
  · rw [hevents]
    simp only [keys_append, keys_closed, roots_append, roots_closed, List.append_nil]
    rw [← hu.under, List.dropLast_concat]
  · rw [hevents, closes_append, closes_closed, List.mem_append, not_or]
    exact ⟨hu.kept, notMem_held root parent⟩
  · rwa [hevents, keys_append, keys_closed, List.append_nil, hu.names]
  · rw [hevents, opens_append, opens_closed, closes_append, closes_closed, List.append_nil,
      hu.balance]

/-- All of them are created. -/
theorem Underway.succeeded {names : List (List UInt16)}
    (hu : Underway kernel options root opened h names s) (hne : names ≠ []) (hroot : h ≠ root) :
    Created kernel options root names opened (.ok h) s := by
  have hheld : held root h = [h] := if_neg hroot
  refine ⟨?_, ?_, hu.given, hu.kept, fun h' e => ?_, nofun⟩
  · exact hu.names ▸ List.prefix_refl _
  · rw [← hu.under, List.dropLast_concat]
  · obtain rfl := Except.ok.inj e
    refine ⟨hne, hu.names, ?_, ?_, ?_⟩
    · have hkeys : (keys s.events).map (·.2.2) ≠ [] := by
        intro e
        have hnames := hu.names
        rw [List.map_eq_nil_iff.mp e] at hnames
        exact hne hnames.symm
      have hlast := congrArg List.getLast? hu.under
      rw [List.getLast?_concat, List.getLast?_append_of_ne_nil _ hkeys] at hlast
      exact hlast.symm
    · rw [hu.balance, hheld]
    · rw [hu.table, hheld, List.singleton_append]

/-- The components, taken one by one. -/
theorem components_eq (u : List UInt16) :
    nextToken ([92].contains ·) u = none ∧ components u = [] ∨
      ∃ t rest, nextToken ([92].contains ·) u = some (t, rest) ∧
        components u = t :: components rest := nextToken_eq u

/-- **The loop creates the components that are left**, whichever of them cannot be created. -/
theorem createLoop_components (kernel : Kernel) (options : Nat) {names : List (List UInt16)}
    (left : Nat) {childName : Nat} {m t behind pre u post : List UInt16}
    (hu : Underway kernel options root opened parent done s)
    (hname : m.drop childName = t ++ 0 :: behind) (h0 : 0 ∉ t)
    (hm : m = pre ++ (u ++ 0 :: post)) (h0u : 0 ∉ u)
    (hnames : names = done ++ t :: components u) (hleft : (components u).length < left) :
    ∃ r s', createLoop kernel options root left childName (some pre.length) parent m s =
      some (r, s') ∧ Created kernel options root names opened r s' ∧
      ∀ status, r = .error status → Denied kernel options root names opened status s' := by
  induction left generalizing childName m t behind pre u parent done s with
  | zero => exact absurd hleft (Nat.not_lt_zero _)
  | succ left ih =>
      simp only [createLoop, hname, rtlInitUnicodeString_append h0, Option.bind_eq_bind,
        Option.bind_some]
      cases hcreate : kernel.zwCreateKey s parent (t.take maxUstring) options with
      | error status =>
          have hstop : done ≠ names := by
            rw [hnames]
            intro e
            have := congrArg List.length e
            rw [List.length_append, List.length_cons] at this
            omega
          obtain ⟨s', hclose, hcreated⟩ :=
            hu.failed (hnames ▸ List.prefix_append _ _) (.inr hstop) status
          simp only [hclose, Option.bind_some]
          refine ⟨_, _, rfl, hcreated, ?_⟩
          intro status' e
          cases e
          exact ⟨done, t, _, parent, s, hnames, hu, hcreate, hclose⟩
      | ok child =>
          -- a name that has been created is no longer than what `RtlInitUnicodeString` takes
          have htake : t.take maxUstring = t := by
            have hshort := kernel.create_name _ _ _ _ _ hcreate
            rw [List.length_take] at hshort
            refine List.take_of_length_le ?_
            unfold maxUstring at *
            omega
          rw [htake] at hcreate ⊢
          obtain ⟨hroot, s', hclose, hu'⟩ := underway_create hu hcreate
          rcases tokR_nextToken [92] u h0u pre post with
            ⟨hnone, htok⟩ | ⟨t', rest, k, pre', hsome, h0t', h0rest, htok, behind', hdrop⟩
          · rcases components_eq u with ⟨-, hnil⟩ | ⟨t', rest, hsome, -⟩
            · rw [hnil] at hnames
              rw [← hm] at htok
              simp only [wcstokR, htok, Option.bind_some, hclose]
              rw [← hnames] at hu'
              exact ⟨_, _, rfl, hu'.succeeded (by rw [hnames]; simp) hroot, nofun⟩
            · rw [hnone] at hsome
              cases hsome
          · rcases components_eq u with ⟨hnone, -⟩ | ⟨t'', rest', hsome', hcons⟩
            · rw [hsome] at hnone
              cases hnone
            · rw [hsome] at hsome'
              cases hsome'
              rw [← hm] at htok
              simp only [wcstokR, htok, Option.bind_some, hclose]
              refine ih hu' hdrop h0t' rfl h0rest ?_ ?_
              · rw [hnames, hcons, List.append_assoc]
                rfl
              · rw [hcons, List.length_cons] at hleft
                omega

/-- **All of the components**, from where the parent is open. -/
theorem createKeys_components (kernel : Kernel) (options : Nat) {m pre u post : List UInt16}
    (hu : Underway kernel options root opened parent [] s) (hm : m = pre ++ (u ++ 0 :: post))
    (h0u : 0 ∉ u) :
    ∃ r s', createKeys kernel options root pre.length parent m s = some (r, s') ∧
      Created kernel options root (components u) opened r s' ∧
      ∀ status, r = .error status →
        components u = [] ∧ status = .invalidParameter ∧ s.closeUnless root parent = some s' ∨
          Denied kernel options root (components u) opened status s' := by
  subst hm
  have hfirst (m : List UInt16) :
      wcstokR [92] (some pre.length) none m = tokR [92] none (some pre.length) m := rfl
  rcases tokR_nextToken [92] u h0u pre post with
    ⟨hnone, htok⟩ | ⟨t, rest, k, pre', hsome, h0t, h0rest, htok, behind, hdrop⟩
  · rcases components_eq u with ⟨-, hnil⟩ | ⟨t, rest, hsome, -⟩
    · obtain ⟨s', hclose, hcreated⟩ :=
        hu.failed (List.nil_prefix (l := components u)) (.inl hnil) .invalidParameter
      simp only [createKeys, hfirst, htok, Option.bind_eq_bind, Option.bind_some, hclose]
      refine ⟨_, _, rfl, hcreated, ?_⟩
      intro status e
      cases e
      exact .inl ⟨hnil, rfl, rfl⟩
    · rw [hnone] at hsome
      cases hsome
  · rcases components_eq u with ⟨hnone, -⟩ | ⟨t', rest', hsome', hcons⟩
    · rw [hsome] at hnone
      cases hnone
    · rw [hsome] at hsome'
      cases hsome'
      have hleft : (components rest).length < (pre' ++ (rest ++ 0 :: post)).length := by
        have := length_tokens_le ([92].contains ·) rest
        rw [List.length_append, List.length_append, List.length_cons]
        exact Nat.lt_of_le_of_lt this (by omega)
      simp only [createKeys, hfirst, htok, Option.bind_eq_bind, Option.bind_some]
      obtain ⟨r, s', hrun, hcreated, hdenied⟩ :=
        createLoop_components kernel options _ hu hdrop h0t rfl h0rest hcons hleft
      exact ⟨r, s', hrun, hcreated, fun status e => .inr (hdenied status e)⟩

end Loop

/-! ## 5. The function -/

section Whole

variable {path text post : List UInt16}

/-- The copy of a path ends it at its first NUL. -/
theorem append_zeros (path : List UInt16) (n : Nat) :
    ∃ post, path ++ List.replicate (n + 1) 0 = path.takeWhile (· ≠ 0) ++ 0 :: post := by
  have hsplit := List.takeWhile_append_dropWhile (p := fun c : UInt16 => decide (c ≠ 0)) (l := path)
  cases hrest : path.dropWhile (· ≠ 0) with
  | nil =>
      rw [hrest, List.append_nil] at hsplit
      exact ⟨List.replicate n 0, by rw [hsplit]; rfl⟩
  | cons c rest =>
      have hc : c = 0 := by
        have := List.head?_dropWhile_not (fun c : UInt16 => decide (c ≠ 0)) path
        rw [hrest] at this
        simpa using this
      rw [hrest, hc] at hsplit
      refine ⟨rest ++ List.replicate (n + 1) 0, ?_⟩
      conv => lhs; rw [← hsplit]
      simp

theorem copied_eq (path : UnicodeString) :
    ∃ post, path.copied = path.buffer.takeWhile (· ≠ 0) ++ 0 :: post := by
  have hroom := path.fits
  have hlength : path.maximumLength / 2 + 1 - path.buffer.length =
      path.maximumLength / 2 - path.buffer.length + 1 := by omega
  rw [UnicodeString.copied, hlength]
  exact append_zeros _ _

theorem zero_notMem_takeWhile (path : List UInt16) : 0 ∉ path.takeWhile (· ≠ 0) := fun h => by
  have := List.all_eq_true.mp (List.all_takeWhile (p := fun c : UInt16 => decide (c ≠ 0))) 0 h
  simp at this

/-- The comparison ends at the NUL of the path, if not ahead of it. -/
theorem wcsnicmp_eq {pattern : List UInt16} (hp : ∀ c ∈ pattern, towlower c ≠ 0) :
    wcsnicmp (text ++ 0 :: post) pattern =
      some (decide ((text.take pattern.length).map towlower = pattern.map towlower)) := by
  induction pattern generalizing text with
  | nil => cases text <;> rfl
  | cons p pattern ih =>
      have hp0 : towlower p ≠ 0 := hp p List.mem_cons_self
      cases text with
      | nil =>
          have h0 : ¬towlower 0 = towlower p := fun e => hp0 e.symm
          rw [List.nil_append, wcsnicmp, if_neg h0]
          rfl
      | cons c text =>
          rw [List.cons_append, wcsnicmp, List.length_cons, List.take_succ_cons, List.map_cons,
            List.map_cons]
          by_cases hc : towlower c = towlower p
          · rw [if_pos hc, ih fun c hc => hp c (List.mem_cons_of_mem _ hc), hc]
            simp
          · rw [if_neg hc]
            simp [hc]

theorem towlower_rootPrefix : ∀ c ∈ rootPrefix, towlower c ≠ 0 := by
  have hall : rootPrefix.all (towlower · ≠ 0) = true := by decide
  exact fun c hc => of_decide_eq_true (List.all_eq_true.mp hall c hc)

end Whole

/-- Where nothing has been asked of the kernel. -/
theorem created_nothing (kernel : Kernel) (options : Nat) (parent : Handle)
    (names : List (List UInt16)) (opened : List Handle) (status : Status) :
    Created kernel options parent names opened (.error status) ⟨opened, []⟩ := by
  refine ⟨List.nil_prefix, ?_, ⟨nofun, nofun⟩, List.not_mem_nil, nofun, fun _ _ => ⟨?_, rfl, rfl⟩⟩
  · by_cases hp : parent ≠ 0
    · rw [if_pos hp]
      rfl
    · rw [if_neg hp]
      rfl
  · cases names with
    | nil => exact .inl rfl
    | cons name names => exact .inr nofun

/-- The caller's parent, ahead of the first component. -/
theorem underway_parent (kernel : Kernel) (options : Nat) {parent : Handle} (hp : parent ≠ 0)
    (opened : List Handle) : Underway kernel options parent opened parent [] ⟨opened, []⟩ := by
  refine ⟨rfl, ?_, ⟨nofun, nofun⟩, List.not_mem_nil, ?_, ?_, fun hne => absurd rfl hne⟩
  · rw [if_pos hp]
    rfl
  · rw [held, if_pos rfl]
    rfl
  · rw [held, if_pos rfl]
    rfl

/-- The root, likewise. -/
theorem underway_root {kernel : Kernel} (options : Nat) {opened : List Handle} {h : Handle}
    (hopen : kernel.zwOpenKey ⟨opened, []⟩ rootPrefix = .ok h) :
    Underway kernel options 0 opened h [] (Handles.openRoot h ⟨opened, []⟩) := by
  obtain ⟨hne, -⟩ := kernel.open_fresh _ _ _ hopen
  have hheld : held 0 h = [h] := if_neg hne
  refine ⟨rfl, rfl, ⟨?_, nofun⟩, List.not_mem_nil, ?_, ?_, fun _ => .inl rfl⟩
  · intro h' hmem
    obtain rfl : h' = h := List.mem_singleton.mp hmem
    exact hopen
  · rw [hheld]
    rfl
  · rw [hheld]
    rfl

/-- **`RegistryCreateKey` creates the components in their order and closes what it has opened**,
    whatever the kernel answers; an error is that of what has refused, so that it succeeds where
    nothing does. -/
theorem registryCreateKey_created (kernel : Kernel) (allocated : Bool) (parent : Handle)
    (path : UnicodeString) (options : Nat) (opened : List Handle) :
    ∃ r s, registryCreateKey kernel allocated parent path options ⟨opened, []⟩ = some (r, s) ∧
      Created kernel options parent (keyPath parent path.buffer) opened r s ∧
      (∀ status, r = .error status →
        Refused kernel options allocated parent path.buffer opened status s) ∧
      ((∀ status s', ¬Refused kernel options allocated parent path.buffer opened status s') →
        ∃ h, r = .ok h) := by
  suffices hmain : ∃ r s,
      registryCreateKey kernel allocated parent path options ⟨opened, []⟩ = some (r, s) ∧
      Created kernel options parent (keyPath parent path.buffer) opened r s ∧
      ∀ status, r = .error status →
        Refused kernel options allocated parent path.buffer opened status s by
    obtain ⟨r, s, hrun, hcreated, hrefused⟩ := hmain
    refine ⟨r, s, hrun, hcreated, hrefused, fun hnone => ?_⟩
    cases r with
    | error status => exact absurd (hrefused status rfl) (hnone status s)
    | ok h => exact ⟨h, rfl⟩
  obtain ⟨post, hm⟩ := copied_eq path
  have h0 := zero_notMem_takeWhile path.buffer
  cases allocated with
  | false =>
      refine ⟨_, _, rfl, created_nothing .., ?_⟩
      intro status e
      cases e
      exact .pool rfl rfl rfl
  | true =>
      rw [registryCreateKey, if_pos rfl, keyPath]
      by_cases hp : parent ≠ 0
      · have hu := underway_parent kernel options hp opened
        have hm' : path.copied = [] ++ (path.buffer.takeWhile (· ≠ 0) ++ 0 :: post) := hm
        have hnames : keyPath parent path.buffer = components (path.buffer.takeWhile (· ≠ 0)) :=
          if_pos hp
        obtain ⟨r, s, hrun, hcreated, herror⟩ := createKeys_components kernel options hu hm' h0
        rw [if_pos hp, if_pos hp]
        refine ⟨r, s, hrun, hcreated, ?_⟩
        intro status e
        rcases herror status e with ⟨hnil, hstatus, hclose⟩ | hdenied
        · exact .empty rfl (absurd · hp) (hnames.trans hnil) hstatus hu hclose
        · exact .key rfl (absurd · hp) (hnames ▸ hdenied)
      · have hparent : parent = 0 := not_not.mp hp
        subst hparent
        rw [if_neg hp, if_neg hp, hm, registryOpenRoot, wcsnicmp_eq towlower_rootPrefix]
        simp only [Option.bind_eq_bind, Option.bind_some, decide_eq_true_eq]
        by_cases hroot : ((path.buffer.takeWhile (· ≠ 0)).take rootPrefix.length).map towlower =
          rootPrefix.map towlower
        · rw [if_pos hroot, if_pos hroot]
          cases hopen : kernel.zwOpenKey ⟨opened, []⟩ rootPrefix with
          | error status =>
              refine ⟨_, _, rfl, created_nothing .., ?_⟩
              intro status' e
              cases e
              exact .root rfl rfl hroot hopen rfl
          | ok h =>
              have hu := underway_root options hopen
              have hnames : keyPath 0 path.buffer =
                  components ((path.buffer.takeWhile (· ≠ 0)).drop rootPrefix.length) := by
                rw [keyPath, if_neg hp]
                exact if_pos hroot
              have hroot' : Rooted path.buffer := hroot
              -- the path goes on behind the root
              generalize path.buffer.takeWhile (· ≠ 0) = text at h0 hroot hnames ⊢
              have hlength : (text.take rootPrefix.length).length = rootPrefix.length := by
                have := congrArg List.length hroot
                rwa [List.length_map, List.length_map] at this
              have htext : text ++ 0 :: post =
                  text.take rootPrefix.length ++ (text.drop rootPrefix.length ++ 0 :: post) := by
                rw [← List.append_assoc, List.take_append_drop]
              obtain ⟨r, s, hrun, hcreated, herror⟩ := createKeys_components kernel options hu htext
                fun hmem => h0 (List.mem_of_mem_drop hmem)
              rw [hlength] at hrun
              refine ⟨r, s, hrun, hcreated, ?_⟩
              intro status e
              rcases herror status e with ⟨hnil, hstatus, hclose⟩ | hdenied
              · exact .empty rfl (fun _ => hroot') (hnames.trans hnil) hstatus hu hclose
              · exact .key rfl (fun _ => hroot') (hnames ▸ hdenied)
        · rw [if_neg hroot, if_neg hroot]
          refine ⟨_, _, rfl, created_nothing .., ?_⟩
          intro status e
          cases e
          exact .unrooted rfl rfl hroot rfl rfl

theorem le_foldr_max {hs : List Handle} {h : Handle} (hmem : h ∈ hs) : h ≤ hs.foldr max 0 := by
  induction hs with
  | nil => cases hmem
  | cons h' hs ih =>
      rw [List.foldr_cons]
      rcases List.mem_cons.mp hmem with rfl | hmem
      · exact Nat.le_max_left _ _
      · exact Nat.le_trans (ih hmem) (Nat.le_max_right _ _)

theorem fresh_foldr_max (s : Handles) : s.Fresh (s.opened.foldr max 0 + 1) :=
  ⟨nofun, fun hmem => absurd (le_foldr_max hmem) (Nat.not_succ_le_self _)⟩

/-- A kernel that numbers the handles, and refuses the names in `denied` and what it has to. -/
def numbering (denied : List (List UInt16)) : Kernel where
  zwOpenKey s _ := .ok (s.opened.foldr max 0 + 1)
  zwCreateKey s parent name _ :=
    if parent ∈ s.opened ∧ name.length ≤ 255 ∧ name ∉ denied then .ok (s.opened.foldr max 0 + 1)
    else .error .invalidParameter
  open_fresh s _ _ e := Except.ok.inj e ▸ fresh_foldr_max s
  create_fresh s _ _ _ _ e := by
    split at e
    · exact Except.ok.inj e ▸ fresh_foldr_max s
    · cases e
  create_parent _ _ _ _ _ e := by
    split at e
    · rename_i h
      exact h.1
    · cases e
  create_name _ _ _ _ _ e := by
    split at e
    · rename_i h
      exact h.2.1
    · cases e

/-- Two keys under the handle 7, and an empty component between them. -/
def twoKeys : UnicodeString := ⟨[65, 92, 92, 66], 8, by decide, by decide⟩

/-- Both are created; or the second is refused, and the first has been created and is closed. -/
theorem registryCreateKey_created_numbering :
    (∃ s, s = ⟨[9, 7], [.created 7 [65] 8, .created 8 [66] 9, .closed 8]⟩ ∧
      registryCreateKey (numbering []) true 7 twoKeys 0 ⟨[7], []⟩ = some (.ok 9, s) ∧
      Created (numbering []) 0 7 [[65], [66]] [7] (.ok 9) s) ∧
    ∃ s, s = ⟨[7], [.created 7 [65] 8, .closed 8]⟩ ∧
      registryCreateKey (numbering [[66]]) true 7 twoKeys 0 ⟨[7], []⟩ =
        some (.error .invalidParameter, s) ∧
      Refused (numbering [[66]]) 0 true 7 twoKeys.buffer [7] .invalidParameter s := by
  constructor
  · have hrun : registryCreateKey (numbering []) true 7 twoKeys 0 ⟨[7], []⟩ =
        some (.ok 9, ⟨[9, 7], [.created 7 [65] 8, .created 8 [66] 9, .closed 8]⟩) := by decide
    obtain ⟨r, s, hrun', hcreated, -⟩ :=
      registryCreateKey_created (numbering []) true 7 twoKeys 0 [7]
    cases hrun.symm.trans hrun'
    exact ⟨_, rfl, hrun, hcreated⟩
  · have hrun : registryCreateKey (numbering [[66]]) true 7 twoKeys 0 ⟨[7], []⟩ =
        some (.error .invalidParameter, ⟨[7], [.created 7 [65] 8, .closed 8]⟩) := by decide
    obtain ⟨r, s, hrun', -, hrefused, -⟩ :=
      registryCreateKey_created (numbering [[66]]) true 7 twoKeys 0 [7]
    cases hrun.symm.trans hrun'
    exact ⟨_, rfl, hrun, hrefused _ rfl⟩

end Xencons.Registry
