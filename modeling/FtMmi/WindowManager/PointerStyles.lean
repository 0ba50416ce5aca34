/-
FtMmi.WindowManager.PointerStyles — the pointer style of each window
(`pointerStyle_`).

The table of a process has at most 20 styles. `UpdatePointerStyle` adds the
windows of a layout and takes none away, except that a table that is full
gives up the window with the smallest id, listed or not. So it keeps all
that it had and has all that is listed precisely if both together are no
more than 20 (`addAll_complete_iff`).
-/
import FtMmi.Lib.StepSystem
import FtMmi.Util.Config
import FtMmi.WindowManager.InputWindowsManager

namespace FtMmi.WindowManager

open FtMmi.Lib

/-! ## The table of a process -/

abbrev Styles := Std.TreeMap Int32 Int32

/-- `DEFAULT_POINTER_STYLE` -/
def defaultPointerStyle : Int32 := 0

/-- `MAX_WINDOW_COUNT` -/
def maxWindowCount : Nat := 20

/-- `erase(begin())`: the keys stand in their order. -/
def eraseBegin (styles : Styles) : Styles :=
  match styles.keys with
  | [] => styles
  | windowId :: _ => styles.erase windowId

theorem size_eraseBegin {styles : Styles} (h : styles.size ≠ 0) :
    (eraseBegin styles).size < styles.size := by
  have hlength : styles.keys.length = styles.size := Std.TreeMap.length_keys
  unfold eraseBegin
  split
  · rename_i hnil
    simp [hnil] at hlength
    omega
  · rename_i windowId _ hkeys
    have hmem : windowId ∈ styles := by
      rw [← Std.TreeMap.mem_keys, hkeys]
      exact List.mem_cons_self
    rw [Std.TreeMap.size_erase, if_pos (Std.TreeMap.mem_iff_contains.mp hmem)]
    omega

/-- An entry that is left is one that was there. -/
theorem getElem?_eraseBegin {styles : Styles} {windowId style : Int32}
    (h : (eraseBegin styles)[windowId]? = some style) : styles[windowId]? = some style := by
  unfold eraseBegin at h
  split at h
  · exact h
  · rw [Std.TreeMap.getElem?_erase] at h
    split at h
    · cases h
    · exact h

/-- What is left has larger ids than what is given up. -/
theorem lt_of_eraseBegin {styles : Styles} {lost kept : Int32} (hbefore : lost ∈ styles)
    (hlost : lost ∉ eraseBegin styles) (hkept : kept ∈ eraseBegin styles) : lost < kept := by
  have hordered := Std.TreeMap.ordered_keys (t := styles)
  unfold eraseBegin at hlost hkept
  split at hlost
  · exact absurd hbefore hlost
  · rename_i windowId rest hkeys
    simp only [Std.TreeMap.mem_erase, ne_eq, Std.LawfulEqCmp.compare_eq_iff_eq] at hlost
    simp only [hkeys, Std.TreeMap.mem_erase, ne_eq, Std.LawfulEqCmp.compare_eq_iff_eq] at hkept
    obtain rfl : windowId = lost := by
      by_contra hne
      exact hlost ⟨hne, hbefore⟩
    rw [hkeys, List.pairwise_cons] at hordered
    have hmem : kept ∈ styles.keys := Std.TreeMap.mem_keys.mpr hkept.2
    rw [hkeys, List.mem_cons] at hmem
    have hrest := hmem.resolve_left fun heq => hkept.1 heq.symm
    exact Std.compare_eq_lt.mp (hordered.1 kept hrest)

/-- The styles of the windows of a process. -/
structure StyleTable where
  styles : Styles
  size_le : styles.size ≤ maxWindowCount

namespace StyleTable

def empty : StyleTable := ⟨∅, by simp⟩

/-- The table with room for one more. -/
def room (table : StyleTable) : Styles :=
  if table.styles.size = maxWindowCount then eraseBegin table.styles else table.styles

theorem size_room (table : StyleTable) : table.room.size < maxWindowCount := by
  have hle := table.size_le
  unfold room
  split
  · rename_i hfull
    have hsize : (eraseBegin table.styles).size < table.styles.size :=
      size_eraseBegin (by rw [hfull]; decide)
    omega
  · omega

/-- A window of a layout as it is added. -/
def add (table : StyleTable) (windowId : Int32) : StyleTable :=
  if windowId ∈ table.styles then table
  else
    { styles := table.room.insertIfNew windowId defaultPointerStyle
      size_le := by
        have hle := Std.TreeMap.size_insertIfNew_le (t := table.room) (k := windowId)
          (v := defaultPointerStyle)
        have hroom := table.size_room
        omega }

/-- `iter->second = pointerStyle` -/
def set (table : StyleTable) (windowId pointerStyle : Int32) (h : windowId ∈ table.styles) :
    StyleTable where
  styles := table.styles.insert windowId pointerStyle
  size_le := by
    rw [Std.TreeMap.size_insert, if_pos (Std.TreeMap.mem_iff_contains.mp h)]
    exact table.size_le

/-- The windows in the table. -/
def ids (table : StyleTable) : Finset Int32 := table.styles.keys.toFinset

@[simp] theorem mem_ids {table : StyleTable} {windowId : Int32} :
    windowId ∈ table.ids ↔ windowId ∈ table.styles := by
  simp [ids]

theorem card_ids (table : StyleTable) : table.ids.card = table.styles.size := by
  rw [ids, List.toFinset_card_of_nodup Std.TreeMap.nodup_keys, Std.TreeMap.length_keys]

theorem add_of_mem {table : StyleTable} {windowId : Int32} (h : windowId ∈ table.styles) :
    table.add windowId = table := if_pos h

/-- A table that is not full loses nothing. -/
theorem styles_add_of_room {table : StyleTable} {windowId : Int32} (h : windowId ∉ table.styles)
    (hroom : table.styles.size ≠ maxWindowCount) :
    (table.add windowId).styles = table.styles.insertIfNew windowId defaultPointerStyle := by
  have hsame : table.room = table.styles := if_neg hroom
  rw [add, if_neg h, ← hsame]

/-- What is given up for a new window has a smaller id than what is kept. -/
theorem lt_of_add {table : StyleTable} {item lost kept : Int32} (hbefore : lost ∈ table.styles)
    (hlost : lost ∉ (table.add item).styles) (hold : kept ∈ table.styles)
    (hkept : kept ∈ (table.add item).styles) : lost < kept := by
  unfold add at hlost hkept
  split at hlost
  · exact absurd hbefore hlost
  · rename_i hnew
    simp only [if_neg hnew, Std.TreeMap.mem_insertIfNew, Std.LawfulEqCmp.compare_eq_iff_eq]
      at hlost hkept
    rw [not_or] at hlost
    have hkept := hkept.resolve_left fun heq => hnew (heq ▸ hold)
    unfold room at hlost hkept
    split at hlost
    · rename_i hfull
      rw [if_pos hfull] at hkept
      exact lt_of_eraseBegin hbefore hlost.2 hkept
    · exact absurd hbefore hlost.2

theorem getElem?_add {table : StyleTable} {windowId item style : Int32}
    (h : (table.add item).styles[windowId]? = some style) :
    table.styles[windowId]? = some style ∨ windowId = item ∧ style = defaultPointerStyle := by
  unfold add at h
  split at h
  · exact .inl h
  · rw [Std.TreeMap.getElem?_insertIfNew] at h
    split at h
    · rename_i hnew
      exact .inr ⟨(Std.LawfulEqCmp.eq_of_compare hnew.1).symm, (Option.some.inj h).symm⟩
    · unfold room at h
      split at h
      · exact .inl (getElem?_eraseBegin h)
      · exact .inl h

/-! ## All the windows of a process -/

def addAll (table : StyleTable) (windowIds : List Int32) : StyleTable := windowIds.foldl add table

/-- Nothing is made up: a style is the one of before, or a listed window has
the default. -/
theorem getElem?_addAll {windowId style : Int32} : ∀ {windowIds : List Int32} {table : StyleTable},
    (table.addAll windowIds).styles[windowId]? = some style →
      table.styles[windowId]? = some style ∨
        windowId ∈ windowIds ∧ style = defaultPointerStyle
  | [], _, h => .inl h
  | item :: windowIds, table, h => by
      have hrest : ((table.add item).addAll windowIds).styles[windowId]? = some style := h
      rcases getElem?_addAll hrest with h | h
      · rcases getElem?_add h with h | ⟨rfl, hstyle⟩
        · exact .inl h
        · exact .inr ⟨List.mem_cons_self, hstyle⟩
      · exact .inr ⟨List.mem_cons_of_mem _ h.1, h.2⟩

theorem not_mem_addAll {windowIds : List Int32} {table : StyleTable} {windowId : Int32}
    (h : windowId ∉ table.styles) (hlisted : windowId ∉ windowIds) :
    windowId ∉ (table.addAll windowIds).styles := by
  rw [Std.TreeMap.mem_iff_isSome_getElem?, Option.isSome_iff_exists]
  rintro ⟨style, hstyle⟩
  rcases getElem?_addAll hstyle with hbefore | ⟨hmem, _⟩
  · exact h (Std.TreeMap.mem_iff_isSome_getElem?.mpr (Option.isSome_of_eq_some hbefore))
  · exact hlisted hmem

/-- What is given up has a smaller id than what is kept and is not listed. -/
theorem lt_of_addAll {lost kept : Int32} : ∀ {windowIds : List Int32} {table : StyleTable},
    lost ∈ table.styles → lost ∉ (table.addAll windowIds).styles → kept ∉ windowIds →
      kept ∈ (table.addAll windowIds).styles → lost < kept
  | [], _, hbefore, hlost, _, _ => absurd hbefore hlost
  | item :: windowIds, table, hbefore, hlost, hlisted, hkept => by
      have hlistedRest : kept ∉ windowIds := fun hmem => hlisted (List.mem_cons_of_mem item hmem)
      -- Without being listed it was there all along.
      have hold : kept ∈ table.styles := by
        by_contra hnot
        exact not_mem_addAll hnot hlisted hkept
      have hadded : kept ∈ (table.add item).styles := by
        by_contra hnot
        exact not_mem_addAll hnot hlistedRest hkept
      by_cases hnow : lost ∈ (table.add item).styles
      · exact lt_of_addAll hnow hlost hlistedRest hkept
      · exact lt_of_add hbefore hnow hold hadded

/-- With room for all of them the new windows get the default, and the others
keep what they have. -/
theorem getElem?_addAll_of_room (windowId : Int32) {windowIds : List Int32} {table : StyleTable}
    (hroom : (table.ids ∪ windowIds.toFinset).card ≤ maxWindowCount) :
    (table.addAll windowIds).styles[windowId]? =
      if windowId ∈ table.styles then table.styles[windowId]?
      else if windowId ∈ windowIds then some defaultPointerStyle else none := by
  induction windowIds generalizing table with
  | nil =>
    by_cases hmem : windowId ∈ table.styles
    · simp [addAll, hmem]
    · simp [addAll, hmem]
  | cons item windowIds ih =>
    have hfold : table.addAll (item :: windowIds) = (table.add item).addAll windowIds := rfl
    rw [hfold]
    by_cases hitem : item ∈ table.styles
    · rw [add_of_mem hitem, ih (le_trans (Finset.card_le_card ?_) hroom)]
      · by_cases hmem : windowId ∈ table.styles
        · simp [hmem]
        · have hne : windowId ≠ item := fun heq => hmem (heq ▸ hitem)
          simp [hmem, hne]
      · intro id
        simp only [Finset.mem_union, List.mem_toFinset, List.mem_cons]
        tauto
    · -- The new window and those of before fit, so the table is not full.
      have hsub : insert item table.ids ⊆ table.ids ∪ (item :: windowIds).toFinset := by
        intro id
        simp only [Finset.mem_insert, Finset.mem_union, List.mem_toFinset, List.mem_cons]
        tauto
      have hcard := (Finset.card_le_card hsub).trans hroom
      rw [Finset.card_insert_of_notMem (by simpa using hitem), card_ids] at hcard
      have hstyles := styles_add_of_room hitem (by omega)
      have hids : (table.add item).ids = insert item table.ids := by
        ext id
        rw [mem_ids, hstyles, Std.TreeMap.mem_insertIfNew, Std.LawfulEqCmp.compare_eq_iff_eq,
          Finset.mem_insert, mem_ids]
        exact or_congr_left eq_comm
      have hunion : (table.add item).ids ∪ windowIds.toFinset
          = table.ids ∪ (item :: windowIds).toFinset := by
        rw [hids]
        ext id
        simp only [Finset.mem_insert, Finset.mem_union, List.mem_toFinset, List.mem_cons]
        tauto
      rw [ih (hunion ▸ hroom), hstyles, Std.TreeMap.getElem?_insertIfNew]
      by_cases heq : windowId = item
      · subst heq
        simp [hitem]
      · have hne : ¬ item = windowId := fun h => heq h.symm
        simp [heq, hne]

/-- Every listed window gets a style and no other one loses its own, precisely
if there is room for all of them. -/
theorem addAll_complete_iff (table : StyleTable) (windowIds : List Int32) :
    ((∀ windowId ∈ windowIds, windowId ∈ (table.addAll windowIds).styles) ∧
        ∀ windowId ∈ table.styles,
          (table.addAll windowIds).styles[windowId]? = table.styles[windowId]?) ↔
      (table.ids ∪ windowIds.toFinset).card ≤ maxWindowCount := by
  constructor
  · rintro ⟨hlisted, hkept⟩
    have hsub : table.ids ∪ windowIds.toFinset ⊆ (table.addAll windowIds).ids := by
      intro id hid
      rcases Finset.mem_union.mp hid with hid | hid
      · have hmem := mem_ids.mp hid
        rw [mem_ids, Std.TreeMap.mem_iff_isSome_getElem?, hkept id hmem,
          ← Std.TreeMap.mem_iff_isSome_getElem?]
        exact hmem
      · exact mem_ids.mpr (hlisted id (List.mem_toFinset.mp hid))
    have hcard := Finset.card_le_card hsub
    rw [card_ids] at hcard
    exact hcard.trans (table.addAll windowIds).size_le
  · intro hroom
    constructor
    · intro windowId hlisted
      rw [Std.TreeMap.mem_iff_isSome_getElem?, getElem?_addAll_of_room windowId hroom]
      split
      · rename_i hmem
        exact Std.TreeMap.mem_iff_isSome_getElem?.mp hmem
      · rfl
    · intro windowId hmem
      rw [getElem?_addAll_of_room windowId hroom, if_pos hmem]

end StyleTable

/-! ## The tables of all processes -/

abbrev PointerStyles := Std.TreeMap Int32 StyleTable

namespace PointerStyles

variable {s : PointerStyles}

def addWindow (s : PointerStyles) (windowItem : WindowInfo) : PointerStyles :=
  match s[windowItem.pid]? with
  | none => s.insertIfNew windowItem.pid (StyleTable.empty.add windowItem.id)
  | some table => s.insert windowItem.pid (table.add windowItem.id)

def updatePointerStyle (s : PointerStyles) (displayGroupInfo : DisplayGroupInfo) : PointerStyles :=
  displayGroupInfo.windowsInfo.foldl addWindow s

/-- `COMMON_PARAMETER_ERROR` -/
def commonParameterError : Int := 401

def setPointerStyle (s : PointerStyles) (pid windowId pointerStyle : Int32) : Int × PointerStyles :=
  match s[pid]? with
  | none => (commonParameterError, s)
  | some table =>
      if h : windowId ∈ table.styles then
        (retOk, s.insert pid (table.set windowId pointerStyle h))
      else (commonParameterError, s)

/-- `GetPointerStyle`, without a result for a process that has no table. -/
def getPointerStyle (s : PointerStyles) (pid windowId : Int32) : Option Int32 :=
  s[pid]?.map fun table => table.styles[windowId]?.getD defaultPointerStyle

def onSessionLost (s : PointerStyles) (pid : Int32) : PointerStyles :=
  if pid ∈ s then s.erase pid else s

/-- The table of a process, or an empty one. -/
def tableOf (s : PointerStyles) (pid : Int32) : StyleTable := s[pid]?.getD .empty

/-- The style of a window under its owner. -/
def styleOf (s : PointerStyles) (pid windowId : Int32) : Option Int32 :=
  (s.tableOf pid).styles[windowId]?

/-- The windows of a layout that a process owns. -/
def listed (windowsInfo : List WindowInfo) (pid : Int32) : List Int32 :=
  (windowsInfo.filter fun item => item.pid = pid).map WindowInfo.id

/-! ## What each operation does -/

theorem tableOf_addWindow (s : PointerStyles) (windowItem : WindowInfo) (pid : Int32) :
    (s.addWindow windowItem).tableOf pid =
      if windowItem.pid = pid then (s.tableOf pid).add windowItem.id else s.tableOf pid := by
  unfold addWindow tableOf
  cases hpid : s[windowItem.pid]? with
  | none =>
    have hnot : windowItem.pid ∉ s := by
      rw [Std.TreeMap.mem_iff_isSome_getElem?, hpid]
      simp
    dsimp only
    simp only [Std.TreeMap.getElem?_insertIfNew, Std.LawfulEqCmp.compare_eq_iff_eq]
    by_cases heq : windowItem.pid = pid
    · subst heq
      rw [if_pos ⟨rfl, hnot⟩, if_pos rfl, hpid]
      rfl
    · rw [if_neg fun h => heq h.1, if_neg heq]
  | some table =>
    dsimp only
    simp only [Std.TreeMap.getElem?_insert, Std.LawfulEqCmp.compare_eq_iff_eq]
    by_cases heq : windowItem.pid = pid
    · subst heq
      rw [if_pos rfl, if_pos rfl, hpid]
      rfl
    · rw [if_neg heq, if_neg heq]

/-- A layout adds to each table the windows of its process. -/
theorem tableOf_foldl_addWindow (pid : Int32) (windowsInfo : List WindowInfo) :
    ∀ s : PointerStyles, tableOf (windowsInfo.foldl addWindow s) pid
      = (s.tableOf pid).addAll (listed windowsInfo pid) := by
  induction windowsInfo with
  | nil => exact fun _ => rfl
  | cons item windowsInfo ih =>
    intro s
    rw [List.foldl_cons, ih, tableOf_addWindow]
    by_cases heq : item.pid = pid
    · simp [listed, heq, StyleTable.addAll]
    · simp [listed, heq]

theorem tableOf_updatePointerStyle (s : PointerStyles) (displayGroupInfo : DisplayGroupInfo)
    (pid : Int32) :
    (s.updatePointerStyle displayGroupInfo).tableOf pid
      = (s.tableOf pid).addAll (listed displayGroupInfo.windowsInfo pid) :=
  tableOf_foldl_addWindow pid displayGroupInfo.windowsInfo s

theorem mem_foldl_addWindow (pid : Int32) (windowsInfo : List WindowInfo) :
    ∀ s : PointerStyles, pid ∈ windowsInfo.foldl addWindow s ↔
      pid ∈ s ∨ ∃ item ∈ windowsInfo, item.pid = pid := by
  induction windowsInfo with
  | nil => simp
  | cons item windowsInfo ih =>
    intro s
    have hmem : pid ∈ s.addWindow item ↔ pid ∈ s ∨ item.pid = pid := by
      unfold addWindow
      split <;> simp [Std.TreeMap.mem_insert, or_comm]
    rw [List.foldl_cons, ih, hmem]
    simp [or_assoc]

/-- Only an existing style is set. -/
theorem styleOf_setPointerStyle (s : PointerStyles) (pid windowId pointerStyle pid' id : Int32) :
    (s.setPointerStyle pid windowId pointerStyle).2.styleOf pid' id =
      if (pid' = pid ∧ id = windowId) ∧ (s.styleOf pid windowId).isSome then some pointerStyle
      else s.styleOf pid' id := by
  unfold setPointerStyle
  cases hpid : s[pid]? with
  | none =>
    have hnone : s.styleOf pid windowId = none := by
      simp [styleOf, tableOf, hpid, StyleTable.empty]
    simp [hnone]
  | some table =>
    have hsome : (s.styleOf pid windowId).isSome = true ↔ windowId ∈ table.styles := by
      rw [Std.TreeMap.mem_iff_isSome_getElem?]
      simp [styleOf, tableOf, hpid]
    simp only [hsome]
    by_cases hmem : windowId ∈ table.styles
    · rw [dif_pos hmem]
      simp only [hmem, and_true, styleOf, tableOf, Std.TreeMap.getElem?_insert,
        Std.LawfulEqCmp.compare_eq_iff_eq]
      by_cases heq : pid = pid'
      · subst heq
        simp only [if_true, Option.getD_some, StyleTable.set, Std.TreeMap.getElem?_insert,
          Std.LawfulEqCmp.compare_eq_iff_eq, hpid, true_and, eq_comm (a := id)]
      · have hne : ¬ pid' = pid := fun h => heq h.symm
        simp [heq, hne]
    · rw [dif_neg hmem]
      simp [hmem]

/-- A style that has been set is read back. -/
theorem getPointerStyle_setPointerStyle {pid windowId pointerStyle : Int32}
    (h : (s.setPointerStyle pid windowId pointerStyle).1 = retOk) :
    (s.setPointerStyle pid windowId pointerStyle).2.getPointerStyle pid windowId
      = some pointerStyle := by
  unfold setPointerStyle at h ⊢
  cases hpid : s[pid]? with
  | none =>
    rw [hpid] at h
    exact absurd (show commonParameterError = retOk from h) (by decide)
  | some table =>
    rw [hpid] at h
    dsimp only at h ⊢
    by_cases hmem : windowId ∈ table.styles
    · rw [dif_pos hmem]
      simp [getPointerStyle, StyleTable.set]
    · rw [dif_neg hmem] at h
      exact absurd (show commonParameterError = retOk from h) (by decide)

theorem getElem?_onSessionLost (s : PointerStyles) (pid pid' : Int32) :
    (s.onSessionLost pid)[pid']? = if pid = pid' then none else s[pid']? := by
  unfold onSessionLost
  split
  · simp only [Std.TreeMap.getElem?_erase, Std.LawfulEqCmp.compare_eq_iff_eq]
  · rename_i hnot
    split
    · rename_i heq
      exact Std.TreeMap.getElem?_eq_none (heq ▸ hnot)
    · rfl

theorem styleOf_onSessionLost (s : PointerStyles) (pid pid' id : Int32) :
    (s.onSessionLost pid).styleOf pid' id = if pid = pid' then none else s.styleOf pid' id := by
  rw [styleOf, tableOf, getElem?_onSessionLost]
  split
  · simp [StyleTable.empty]
  · rfl

/-! ## The processes in the manager -/

/-- The manager knows the processes that have a table. -/
def Agrees (manager : InputWindowsManager) (s : PointerStyles) : Prop :=
  ∀ pid, manager.pointerStyle pid = true ↔ pid ∈ s

theorem agrees_create (now : Int64) (lastWindowInfo mouseDownInfo : WindowInfo) :
    Agrees (.create now lastWindowInfo mouseDownInfo) ∅ := by
  intro pid
  simp [InputWindowsManager.create]

/-- A layout is drawn after its windows have been added. -/
theorem agrees_layout {manager : InputWindowsManager} (h : Agrees manager s)
    (displayGroupInfo : DisplayGroupInfo) :
    Agrees { manager with
      displayGroupInfo
      pointerStyle := fun pid =>
        manager.pointerStyle pid || displayGroupInfo.windowsInfo.any fun item => item.pid = pid }
      (s.updatePointerStyle displayGroupInfo) := by
  intro pid
  rw [updatePointerStyle, mem_foldl_addWindow, ← h pid]
  simp

theorem agrees_onSessionLost {manager : InputWindowsManager} (h : Agrees manager s) (pid : Int32) :
    Agrees (manager.onSessionLost pid) (s.onSessionLost pid) := by
  intro pid'
  rw [Std.TreeMap.mem_iff_isSome_getElem?, getElem?_onSessionLost]
  by_cases heq : pid = pid'
  · simp [InputWindowsManager.onSessionLost, heq]
  · have hne : pid' ≠ pid := fun h => heq h.symm
    have hmanager := h pid'
    rw [Std.TreeMap.mem_iff_isSome_getElem?] at hmanager
    simp [InputWindowsManager.onSessionLost, heq, hne, hmanager]

/-! ## Runs -/

/-- `another`: another session of the process lives. The code does not ask. -/
inductive StyleInput where
  | updateDisplayInfo (displayGroupInfo : DisplayGroupInfo)
  | setPointerStyle (pid windowId pointerStyle : Int32)
  | onSessionLost (pid : Int32) (another : Bool)

def step (s : PointerStyles) : StyleInput → PointerStyles
  | .updateDisplayInfo displayGroupInfo => s.updatePointerStyle displayGroupInfo
  | .setPointerStyle pid windowId pointerStyle => (s.setPointerStyle pid windowId pointerStyle).2
  | .onSessionLost pid _ => s.onSessionLost pid

/-- A layout in which no process lists more windows than a table holds leaves
every listed window with a style, with the one it had if it had one, and no
other window with any. The loss of a session leaves the styles if another
one lives. -/
def FollowsLayout (s : PointerStyles) : StyleInput → Prop
  | .updateDisplayInfo group =>
      (∀ item ∈ group.windowsInfo,
        (listed group.windowsInfo item.pid).length ≤ maxWindowCount) →
      (∀ item ∈ group.windowsInfo,
        ((s.updatePointerStyle group).styleOf item.pid item.id).isSome ∧
          ((s.styleOf item.pid item.id).isSome →
            (s.updatePointerStyle group).styleOf item.pid item.id = s.styleOf item.pid item.id)) ∧
        ∀ pid windowId, ((s.updatePointerStyle group).styleOf pid windowId).isSome →
          windowId ∈ listed group.windowsInfo pid
  | .setPointerStyle _ _ _ => True
  | .onSessionLost pid another =>
      another = true → ∀ windowId, (s.styleOf pid windowId).isSome →
        ((s.onSessionLost pid).styleOf pid windowId).isSome

/-- After a layout every listed window has a style and every other one keeps
its own, precisely for the processes with room for both; in any case no
style is made up, and the ids that are given up are smaller than those that
are kept without being listed. A style is set where there is one. The loss of
its last session takes the table of a process, and no loss takes another's. -/
def KeepsStyles (s : PointerStyles) : StyleInput → Prop
  | .updateDisplayInfo group => ∀ pid,
      (((∀ windowId ∈ listed group.windowsInfo pid,
            ((s.updatePointerStyle group).styleOf pid windowId).isSome) ∧
          ∀ windowId, (s.styleOf pid windowId).isSome →
            (s.updatePointerStyle group).styleOf pid windowId = s.styleOf pid windowId) ↔
        ((s.tableOf pid).ids ∪ (listed group.windowsInfo pid).toFinset).card ≤ maxWindowCount) ∧
      (∀ windowId style, (s.updatePointerStyle group).styleOf pid windowId = some style →
        s.styleOf pid windowId = some style ∨
          windowId ∈ listed group.windowsInfo pid ∧ style = defaultPointerStyle) ∧
      ∀ lost kept, (s.styleOf pid lost).isSome →
        ¬ ((s.updatePointerStyle group).styleOf pid lost).isSome →
        kept ∉ listed group.windowsInfo pid →
        ((s.updatePointerStyle group).styleOf pid kept).isSome → lost < kept
  | .setPointerStyle pid windowId pointerStyle => ∀ pid' id,
      (s.setPointerStyle pid windowId pointerStyle).2.styleOf pid' id =
        if (pid' = pid ∧ id = windowId) ∧ (s.styleOf pid windowId).isSome then some pointerStyle
        else s.styleOf pid' id
  | .onSessionLost pid another => ∀ pid' id,
      (pid ≠ pid' → (s.onSessionLost pid).styleOf pid' id = s.styleOf pid' id) ∧
        (another = false → (s.onSessionLost pid).styleOf pid id = none)

theorem keepsStyles_updateDisplayInfo (s : PointerStyles) (group : DisplayGroupInfo) :
    s.KeepsStyles (.updateDisplayInfo group) := by
  intro pid
  have htable := s.tableOf_updatePointerStyle group pid
  have hcomplete := (s.tableOf pid).addAll_complete_iff (listed group.windowsInfo pid)
  simp only [Std.TreeMap.mem_iff_isSome_getElem?] at hcomplete
  refine ⟨?_, fun windowId style h => ?_, fun lost kept hbefore hlost hlisted hkept => ?_⟩
  · simp only [styleOf, htable]
    exact hcomplete
  · rw [styleOf, htable] at h
    exact StyleTable.getElem?_addAll h
  · rw [styleOf, ← Std.TreeMap.mem_iff_isSome_getElem?] at hbefore
    rw [styleOf, htable, ← Std.TreeMap.mem_iff_isSome_getElem?] at hlost hkept
    exact StyleTable.lt_of_addAll hbefore hlost hlisted hkept

/-! ## Pointer-style table -/

/-- In every run, from no table at all. -/
theorem pointerStyles_kept (is : List StyleInput) : AllSteps step KeepsStyles ∅ is := by
  refine @allSteps_of_step _ _ step (fun _ => True) KeepsStyles (fun _ _ _ => trivial)
    (fun s i _ => ?_) is _ trivial
  cases i with
  | updateDisplayInfo group => exact s.keepsStyles_updateDisplayInfo group
  | setPointerStyle pid windowId pointerStyle =>
    exact s.styleOf_setPointerStyle pid windowId pointerStyle
  | onSessionLost pid another =>
    exact fun pid' id => ⟨fun hne => (s.styleOf_onSessionLost pid pid' id).trans (if_neg hne),
      fun _ => (s.styleOf_onSessionLost pid pid id).trans (if_pos rfl)⟩

/-- A layout with the windows of one process. -/
def windowsOf (pid : Int32) (ids : List Int32) : DisplayGroupInfo :=
  { DisplayGroupInfo.empty with
    windowsInfo := ids.map fun id =>
      { id, pid, agentWindowId := id, flags := 0, area := ⟨0, 0, 100, 100⟩
        defaultHotAreas := [], pointerHotAreas := [] } }

/-- A window that is gone leaves its style behind, and a full table gives up a
window that is listed, for another one. -/
theorem counterexample_followsLayout :
    ¬ AllSteps step FollowsLayout ∅
        [.updateDisplayInfo (windowsOf 7 [1]), .updateDisplayInfo (windowsOf 7 [2])] ∧
      ¬ AllSteps step FollowsLayout ∅
        [.updateDisplayInfo (windowsOf 7
            [0, 1, 2, 3, 4, 5, 6, 7, 8, 9, 10, 11, 12, 13, 14, 15, 16, 17, 18, 19]),
          .updateDisplayInfo (windowsOf 7 [0, 20])] := by
  refine ⟨fun h => ?_, fun h => ?_⟩
  · have hlast := h.2.1 (by decide +kernel)
    exact absurd (hlast.2 7 1) (by decide +kernel)
  · have hlast := h.2.1 (by decide +kernel)
    exact absurd hlast.1 (by decide +kernel)

end PointerStyles

end FtMmi.WindowManager
