import Oott.Lists.Alignment
import Oott.Model.Notifications
import Mathlib.Data.Finset.Insert

/-!
# The animated list of the notifications

The rows of `home/notifications_list.dart` and how a freshly fetched page is merged into them:
`_animatedInsert`, `_removeItem` and `_reconcile`. The animated list is told of every row that comes
or goes, and has to end up with the length of `_items`; its calls are kept with the length that
`_items` has then, so that they can be played back (`InStep`). While it is not mounted, its state is
`null` and it receives no call: it takes the length of `_items` when it is mounted.

The app's `Notification` has the fields of the backend's.
-/

set_option autoImplicit false
set_option relaxedAutoImplicit false

namespace Oott

/-! ### The animated list -/

/-- A call of the animated list: its index, and the length of `_items` after the change that it
tells of. -/
inductive AnimatedCall
  | insertItem (index length : ℕ)
  | removeItem (index length : ℕ)

namespace AnimatedCall

/-- The assertion on the index of a call, for a list of a given count. -/
def Valid (count : ℕ) : AnimatedCall → Prop
  | insertItem index _ => index ≤ count
  | removeItem index _ => index < count

/-- The count after a call. -/
def countAfter (count : ℕ) : AnimatedCall → ℕ
  | insertItem _ _ => count + 1
  | removeItem _ _ => count - 1

/-- The length of `_items` at a call. -/
def length : AnimatedCall → ℕ
  | insertItem _ length => length
  | removeItem _ length => length

end AnimatedCall

/-- A list of a given count plays back some calls: the index of each is valid, its count is the
length of `_items` after each, and the last count is the one given. -/
def InStep (count : ℕ) : List AnimatedCall → ℕ → Prop
  | [], last => count = last
  | call :: rest, last => call.Valid count ∧ call.countAfter count = call.length ∧
    InStep (call.countAfter count) rest last

theorem InStep.append {first last : ℕ} {earlier later : List AnimatedCall} {middle : ℕ}
    (hearlier : InStep first earlier middle) (hlater : InStep middle later last) :
    InStep first (earlier ++ later) last := by
  induction earlier generalizing first with
  | nil => exact (show first = middle from hearlier) ▸ hlater
  | cons call rest ih =>
    obtain ⟨hvalid, hlength, hrest⟩ := hearlier
    exact ⟨hvalid, hlength, ih hrest⟩

/-! ### The rows -/

/-- `_items` and `_flashIds`, whether the animated list is mounted, and its calls. -/
structure NotificationRows where
  items : List Notification := []
  flashIds : Finset Int := ∅
  listMounted : Bool := false
  calls : List AnimatedCall := []

namespace NotificationRows

/-- `_listKey.currentState?`, at a call. -/
def tell (rows : NotificationRows) (call : AnimatedCall) : NotificationRows :=
  if rows.listMounted then { rows with calls := rows.calls ++ [call] } else rows

/-- `_animatedInsert`. -/
def animatedInsert (rows : NotificationRows) (index : ℕ) (item : Notification) :
    NotificationRows :=
  let rows := { rows with
    items := rows.items.insertIdx index item
    flashIds := insert item.id rows.flashIds }
  rows.tell (.insertItem index rows.items.length)

/-- `_removeItem`. -/
def removeItem (rows : NotificationRows) (id : Int) : NotificationRows :=
  match rows.items.findIdx? fun item ↦ item.id = id with
  | none => rows
  | some index =>
    let rows := { rows with items := rows.items.eraseIdx index }
    rows.tell (.removeItem index rows.items.length)

/-- The removals of `_reconcile`, from an index down. -/
def removeMissing (incomingIds : List Int) : ℕ → NotificationRows → NotificationRows
  | 0, rows => rows
  | index + 1, rows =>
    match rows.items[index]? with
    | some item =>
      removeMissing incomingIds index
        (if item.id ∈ incomingIds then rows else rows.removeItem item.id)
    | none => removeMissing incomingIds index rows

/-- The change of `_reconcile` to the row of a fetched notification. -/
def updateReadState (rows : NotificationRows) (item : Notification) : NotificationRows :=
  match rows.items.findIdx? fun row ↦ row.id = item.id with
  | none => rows
  | some index =>
    if (rows.items[index]?).map Notification.isNew ≠ some item.isNew then
      { rows with items := rows.items.set index item }
    else rows

/-- The insertions of `_reconcile`, from an index on, with the ids that are present. -/
def insertArrivals : List Notification → ℕ → Finset Int → NotificationRows → NotificationRows
  | [], _, _, rows => rows
  | item :: rest, index, present, rows =>
    if item.id ∈ present then insertArrivals rest (index + 1) present rows
    else
      insertArrivals rest (index + 1) (insert item.id present)
        (rows.animatedInsert (min index rows.items.length) item)

/-- `_reconcile`. -/
def reconcile (rows : NotificationRows) (incoming : List Notification) : NotificationRows :=
  let rows := rows.removeMissing (incoming.map Notification.id) rows.items.length
  let rows := incoming.foldl updateReadState rows
  insertArrivals incoming 0 (rows.items.map Notification.id).toFinset rows

/-! ### The animated list keeps in step -/

section InStep

variable {rows middle after : NotificationRows}

/-- What has been done to some rows has told the animated list of every change, while it is
mounted, and nothing otherwise. -/
def KeepsInStep (rows after : NotificationRows) : Prop :=
  after.listMounted = rows.listMounted ∧ ∃ issued, after.calls = rows.calls ++ issued ∧
    if rows.listMounted then InStep rows.items.length issued after.items.length else issued = []

theorem KeepsInStep.of_length (hmounted : after.listMounted = rows.listMounted)
    (hcalls : after.calls = rows.calls) (hlength : after.items.length = rows.items.length) :
    rows.KeepsInStep after := by
  refine ⟨hmounted, [], by simpa using hcalls, ?_⟩
  split_ifs
  · exact hlength.symm
  · rfl

theorem KeepsInStep.refl (rows : NotificationRows) : rows.KeepsInStep rows :=
  .of_length rfl rfl rfl

theorem KeepsInStep.trans (hfirst : rows.KeepsInStep middle) (hsecond : middle.KeepsInStep after) :
    rows.KeepsInStep after := by
  obtain ⟨hmounted, earlier, hearlier, hstep⟩ := hfirst
  obtain ⟨hmounted', later, hlater, hstep'⟩ := hsecond
  refine ⟨hmounted'.trans hmounted, earlier ++ later, by simp [hlater, hearlier], ?_⟩
  rw [hmounted] at hstep'
  split_ifs at hstep hstep' ⊢
  · exact hstep.append hstep'
  · simp [hstep, hstep']

/-- A change that the animated list is told of, with an index that is valid for the length before
it. -/
theorem KeepsInStep.tell {call : AnimatedCall} (hmounted : middle.listMounted = rows.listMounted)
    (hcalls : middle.calls = rows.calls) (hvalid : call.Valid rows.items.length)
    (hcount : call.countAfter rows.items.length = middle.items.length)
    (hlength : call.length = middle.items.length) : rows.KeepsInStep (middle.tell call) := by
  unfold NotificationRows.tell
  split_ifs with htold
  · refine ⟨hmounted, [call], by simp [hcalls], ?_⟩
    rw [if_pos (hmounted ▸ htold)]
    exact ⟨hvalid, hcount.trans hlength.symm, hcount⟩
  · refine ⟨hmounted, [], by simp [hcalls], ?_⟩
    rw [if_neg (hmounted ▸ htold)]

theorem animatedInsert_keepsInStep (index : ℕ) (item : Notification)
    (hindex : index ≤ rows.items.length) :
    rows.KeepsInStep (rows.animatedInsert index item) :=
  .tell rfl rfl hindex (List.length_insertIdx_of_le_length hindex item).symm rfl

theorem removeItem_keepsInStep (id : Int) : rows.KeepsInStep (rows.removeItem id) := by
  unfold removeItem
  cases hfound : rows.items.findIdx? fun item ↦ item.id = id with
  | none => exact .refl rows
  | some index =>
    have hindex := (List.findIdx?_eq_some_iff_getElem.1 hfound).1
    exact .tell rfl rfl hindex (List.length_eraseIdx_of_lt hindex).symm rfl

theorem removeMissing_keepsInStep (incomingIds : List Int) (index : ℕ) (rows : NotificationRows) :
    rows.KeepsInStep (rows.removeMissing incomingIds index) := by
  induction index generalizing rows with
  | zero => exact .refl rows
  | succ index ih =>
    unfold removeMissing
    split
    · split_ifs
      · exact ih rows
      · exact (removeItem_keepsInStep _).trans (ih _)
    · exact ih rows

theorem updateReadState_keepsInStep (item : Notification) :
    rows.KeepsInStep (rows.updateReadState item) := by
  unfold updateReadState
  split
  · exact .refl rows
  · split_ifs
    · exact .of_length rfl rfl (List.length_set ..)
    · exact .refl rows

theorem updateReadStates_keepsInStep (incoming : List Notification) (rows : NotificationRows) :
    rows.KeepsInStep (incoming.foldl updateReadState rows) := by
  induction incoming generalizing rows with
  | nil => exact .refl rows
  | cons item rest ih => exact (updateReadState_keepsInStep item).trans (ih _)

theorem insertArrivals_keepsInStep (incoming : List Notification) (index : ℕ)
    (present : Finset Int) (rows : NotificationRows) :
    rows.KeepsInStep (insertArrivals incoming index present rows) := by
  induction incoming generalizing index present rows with
  | nil => exact .refl rows
  | cons item rest ih =>
    unfold insertArrivals
    split_ifs
    · exact ih _ _ _
    · exact (animatedInsert_keepsInStep _ _ (Nat.min_le_right _ _)).trans (ih _ _ _)

/-- Whatever is merged into whatever rows, the animated list keeps in step. -/
theorem reconcile_keepsInStep (rows : NotificationRows) (incoming : List Notification) :
    rows.KeepsInStep (rows.reconcile incoming) :=
  ((removeMissing_keepsInStep _ _ _).trans (updateReadStates_keepsInStep _ _)).trans
    (insertArrivals_keepsInStep _ _ _ _)

end InStep

/-! ### Merging is replacing -/

section Items

variable {rows : NotificationRows} {incoming : List Notification}

@[simp]
theorem tell_items (call : AnimatedCall) : (rows.tell call).items = rows.items := by
  unfold tell
  split_ifs <;> rfl

theorem removeItem_items (id : Int) :
    (rows.removeItem id).items = rows.items.eraseP fun item ↦ item.id = id := by
  rw [List.eraseP_eq_eraseIdx, removeItem]
  cases rows.items.findIdx? fun item ↦ item.id = id <;> simp

/-- From an index down, the rows that the fetched page does not have are gone. -/
theorem removeMissing_items (incomingIds : List Int) (index : ℕ) :
    ∀ rows : NotificationRows, index ≤ rows.items.length →
      (rows.items.map Notification.id).Nodup →
      (rows.removeMissing incomingIds index).items =
        ((rows.items.take index).filter fun item ↦ item.id ∈ incomingIds) ++
          rows.items.drop index := by
  induction index with
  | zero => simp [removeMissing]
  | succ index ih =>
    intro rows hindex hnodup
    obtain ⟨earlier, item, later, hitems, hlength⟩ : ∃ earlier item later,
        rows.items = earlier ++ item :: later ∧ earlier.length = index :=
      ⟨_, _, _, (List.take_append_drop index rows.items).symm.trans
        (by rw [List.drop_eq_getElem_cons hindex]), by simp; omega⟩
    have hitem : rows.items[index]? = some item := by simp [hitems, ← hlength]
    rw [removeMissing, hitem]
    dsimp only
    have htake : rows.items.take (index + 1) = earlier ++ [item] := by
      rw [hitems, ← hlength, List.take_length_add_append]
      rfl
    have hdrop : rows.items.drop (index + 1) = later := by simp [hitems, ← hlength]
    rw [htake, hdrop, List.filter_append]
    split_ifs with hincoming
    · rw [ih rows (by omega) hnodup]
      simp [hitems, ← hlength, hincoming]
    · -- The first row with the id of this one is this one.
      have hremoved : (rows.removeItem item.id).items = earlier ++ later := by
        have hearlier : ∀ row ∈ earlier, row.id ≠ item.id := by
          rw [hitems, List.map_append, List.map_cons, List.nodup_middle, List.nodup_cons,
            List.mem_append, not_or] at hnodup
          exact fun row hrow heq ↦ hnodup.1.1 (heq ▸ List.mem_map_of_mem hrow)
        rw [removeItem_items, hitems, List.eraseP_append_right _ (by simpa using hearlier)]
        simp
      have hsublist : (earlier ++ later).Sublist rows.items := by simp [hitems]
      rw [ih _ (by simp [hremoved, ← hlength]) (hremoved ▸ hnodup.sublist (hsublist.map _))]
      simp [hremoved, ← hlength, hincoming]

/-- The change to the rows, one by one. -/
theorem updateReadState_items (item : Notification)
    (hnodup : (rows.items.map Notification.id).Nodup) :
    (rows.updateReadState item).items =
      rows.items.map fun row ↦ if row.id = item.id ∧ row.isNew ≠ item.isNew then item else row := by
  unfold updateReadState
  cases hfound : rows.items.findIdx? fun row ↦ row.id = item.id with
  | none =>
    refine ((List.map_congr_left fun row hrow ↦ if_neg ?_).trans (List.map_id _)).symm
    rintro ⟨hid, -⟩
    simpa [hid] using List.findIdx?_eq_none_iff.1 hfound row hrow
  | some index =>
    obtain ⟨hindex, hid, -⟩ := List.findIdx?_eq_some_iff_getElem.1 hfound
    have hunique (other : ℕ) (hother : other < rows.items.length) :
        rows.items[other].id = item.id ↔ index = other := by
      rw [← of_decide_eq_true hid]
      exact Lists.getElem_key_eq_iff hnodup hindex hother
    dsimp only
    by_cases hsame : rows.items[index].isNew = item.isNew
    · have hkept : ¬ (rows.items[index]?).map Notification.isNew ≠ some item.isNew := by
        simp [hindex, hsame]
      rw [if_neg hkept]
      refine List.ext_getElem (by simp) fun other hother _ ↦ ?_
      rw [List.getElem_map, if_neg]
      rintro ⟨hother', hdiffers⟩
      obtain rfl := (hunique other hother).1 hother'
      exact hdiffers hsame
    · have hchanged : (rows.items[index]?).map Notification.isNew ≠ some item.isNew := by
        simpa [hindex] using hsame
      rw [if_pos hchanged]
      refine List.ext_getElem (by simp) fun other hother hmapped ↦ ?_
      rw [List.length_map] at hmapped
      simp only [List.getElem_map, hunique other hmapped, List.getElem_set]
      by_cases heq : index = other
      · subst heq
        simp [hsame]
      · simp [heq]

/-- A row after the in-place changes of some fetched notifications. -/
def settled (incoming : List Notification) (row : Notification) : Notification :=
  incoming.foldl
    (fun row item ↦ if row.id = item.id ∧ row.isNew ≠ item.isNew then item else row) row

theorem settled_id (row : Notification) : (settled incoming row).id = row.id := by
  induction incoming generalizing row with
  | nil => rfl
  | cons item rest ih =>
    refine (ih _).trans ?_
    dsimp only
    split_ifs with hchanged
    · exact hchanged.1.symm
    · rfl

/-- A row with the id of no fetched notification stays as it is. -/
theorem settled_of_not_mem {row : Notification} (hrow : row.id ∉ incoming.map Notification.id) :
    settled incoming row = row := by
  induction incoming with
  | nil => rfl
  | cons item rest ih =>
    rw [List.map_cons, List.mem_cons, not_or] at hrow
    rw [settled, List.foldl_cons, if_neg fun hchanged ↦ hrow.1 hchanged.1]
    exact ih hrow.2

/-- A row has the flag that was fetched for it. -/
theorem settled_isNew {row item : Notification} (hnodup : (incoming.map Notification.id).Nodup)
    (hitem : item ∈ incoming) (hid : row.id = item.id) :
    (settled incoming row).isNew = item.isNew := by
  induction incoming generalizing row with
  | nil => cases hitem
  | cons first rest ih =>
    obtain ⟨hfresh, hrest⟩ := List.nodup_cons.1 hnodup
    rcases List.mem_cons.1 hitem with rfl | hitem
    · by_cases hsame : row.isNew = item.isNew
      · have hkept : settled rest row = row := settled_of_not_mem (hid ▸ hfresh)
        rw [settled, List.foldl_cons, if_neg fun hchanged ↦ hchanged.2 hsame]
        exact (congrArg Notification.isNew hkept).trans hsame
      · rw [settled, List.foldl_cons, if_pos ⟨hid, hsame⟩]
        exact congrArg Notification.isNew (settled_of_not_mem hfresh)
    · have hother : row.id ≠ first.id := fun heq ↦
        hfresh (heq ▸ hid ▸ List.mem_map_of_mem hitem)
      rw [settled, List.foldl_cons, if_neg fun hchanged ↦ hother hchanged.1]
      exact ih hrest hitem hid

theorem updateReadStates_items (incoming : List Notification) :
    ∀ rows : NotificationRows, (rows.items.map Notification.id).Nodup →
      (incoming.foldl updateReadState rows).items = rows.items.map (settled incoming) := by
  induction incoming with
  | nil => exact fun rows _ ↦ (List.map_id _).symm
  | cons item rest ih =>
    intro rows hnodup
    have hitems := updateReadState_items item hnodup
    have hids : (rows.updateReadState item).items.map Notification.id =
        rows.items.map Notification.id := by
      rw [hitems, List.map_map]
      exact List.map_congr_left fun row _ ↦
        show (settled [item] row).id = row.id from settled_id row
    rw [List.foldl_cons, ih _ (hids ▸ hnodup), hitems, List.map_map]
    rfl

theorem insertArrivals_items (incoming : List Notification) (index : ℕ) (present : Finset Int)
    (rows : NotificationRows) (hpresent : present = (rows.items.map Notification.id).toFinset) :
    (insertArrivals incoming index present rows).items =
      Lists.insertMissing Notification.id incoming index rows.items := by
  induction incoming generalizing index present rows with
  | nil => rfl
  | cons item rest ih =>
    rw [insertArrivals, Lists.insertMissing]
    by_cases hmem : item.id ∈ rows.items.map Notification.id
    · rw [if_pos hmem, if_pos (by simpa [hpresent] using hmem)]
      exact ih _ _ _ hpresent
    · rw [if_neg hmem, if_neg (by simpa [hpresent] using hmem)]
      have hitems : (rows.animatedInsert (min index rows.items.length) item).items =
          rows.items.insertIdx (min index rows.items.length) item := by simp [animatedInsert]
      rw [ih, hitems]
      have hperm := List.perm_insertIdx item rows.items (Nat.min_le_right index rows.items.length)
      rw [hitems, List.toFinset_eq_of_perm _ _ (hperm.map _), hpresent, List.map_cons,
        List.toFinset_cons]

/-- The rows before the insertions: those that the fetched page has, with its flags. -/
theorem reconcile_items (hitems : (rows.items.map Notification.id).Nodup) :
    (rows.reconcile incoming).items = Lists.insertMissing Notification.id incoming 0
      ((rows.items.filter fun item ↦ item.id ∈ incoming.map Notification.id).map
        (settled incoming)) := by
  have hremoved := removeMissing_items (incoming.map Notification.id) _ rows le_rfl hitems
  rw [List.take_length, List.drop_length, List.append_nil] at hremoved
  rw [reconcile, insertArrivals_items _ _ _ _ rfl, updateReadStates_items, hremoved]
  exact hremoved ▸ hitems.sublist (List.filter_sublist.map _)

/-- What is shown of a row, as far as the merge is concerned. -/
def shownRow (item : Notification) : Int × Bool := (item.id, item.isNew)

/-- A row that the fetched page has is shown as the page has it. -/
theorem shownRow_settled (hincoming : (incoming.map Notification.id).Nodup)
    {row item : Notification} (hitem : item ∈ incoming) (hid : row.id = item.id) :
    shownRow (settled incoming row) = shownRow item :=
  Prod.ext ((settled_id row).trans hid) (settled_isNew hincoming hitem hid)

/-- Two lists of rows with the same ids, the second of them from the fetched page, are shown alike
once the flags of the first have been set. -/
theorem map_shownRow_settled (hincoming : (incoming.map Notification.id).Nodup)
    {kept page : List Notification} (hpage : page ⊆ incoming)
    (hids : kept.map Notification.id = page.map Notification.id) :
    (kept.map (settled incoming)).map shownRow = page.map shownRow := by
  induction kept generalizing page with
  | nil =>
    have hnil : page = [] := by simpa using hids.symm
    simp [hnil]
  | cons row rest ih =>
    obtain ⟨item, tail, rfl, hid, htail⟩ := List.map_eq_cons_iff.1 hids.symm
    obtain ⟨hitem, hrest⟩ := List.cons_subset.1 hpage
    simp only [List.map_cons]
    rw [shownRow_settled hincoming hitem hid.symm, ih hrest htail.symm]

/-- In whatever order the rows are, the merged ones are those of the fetched page. -/
theorem reconcile_perm (hitems : (rows.items.map Notification.id).Nodup)
    (hincoming : (incoming.map Notification.id).Nodup) :
    ((rows.reconcile incoming).items.map shownRow).Perm (incoming.map shownRow) := by
  rw [reconcile_items hitems]
  set kept := (rows.items.filter fun item ↦ item.id ∈ incoming.map Notification.id).map
    (settled incoming) with hkept
  have hkeptIds : kept.map Notification.id =
      (rows.items.map Notification.id).filter (· ∈ incoming.map Notification.id) := by
    rw [hkept, List.map_map, List.filter_map]
    exact List.map_congr_left fun row _ ↦ settled_id row
  have hshown : (kept.map shownRow).Perm
      ((incoming.filter fun item ↦ item.id ∈ kept.map Notification.id).map shownRow) := by
    have hfst : Prod.fst ∘ shownRow = Notification.id := rfl
    refine (List.perm_ext_iff_of_nodup (.of_map Prod.fst ?_) (.of_map Prod.fst ?_)).2 fun shown ↦ ?_
    · rw [List.map_map, hfst, hkeptIds]
      exact hitems.filter _
    · rw [List.map_map, hfst]
      exact hincoming.sublist (List.filter_sublist.map _)
    have hsame {row item : Notification} (hrow : row ∈ kept) (hitem : item ∈ incoming)
        (hid : row.id = item.id) : shownRow row = shownRow item := by
      obtain ⟨before, -, rfl⟩ := List.mem_map.1 hrow
      exact shownRow_settled hincoming hitem ((settled_id before).symm.trans hid)
    simp only [List.mem_map, List.mem_filter, decide_eq_true_eq]
    constructor
    · rintro ⟨row, hrow, rfl⟩
      have hid : row.id ∈ kept.map Notification.id := List.mem_map_of_mem hrow
      rw [hkeptIds, List.mem_filter, decide_eq_true_eq] at hid
      obtain ⟨item, hitem, hid⟩ := List.mem_map.1 hid.2
      exact ⟨item, ⟨hitem, row, hrow, hid.symm⟩, (hsame hrow hitem hid.symm).symm⟩
    · rintro ⟨item, ⟨hitem, row, hrow, hid⟩, rfl⟩
      exact ⟨row, hrow, hsame hrow hitem hid⟩
  have hsplit := List.filter_append_perm (fun item : Notification ↦
    item.id ∈ kept.map Notification.id) incoming
  refine ((Lists.insertMissing_perm 0 kept hincoming).map shownRow).trans ?_
  rw [List.map_append]
  refine (hshown.append_right _).trans ?_
  rw [← List.map_append]
  simp only [decide_not]
  exact hsplit.map shownRow

theorem reconcile_nodup (hitems : (rows.items.map Notification.id).Nodup)
    (hincoming : (incoming.map Notification.id).Nodup) :
    ((rows.reconcile incoming).items.map Notification.id).Nodup := by
  have hids := (reconcile_perm hitems hincoming).map Prod.fst
  rw [List.map_map, List.map_map] at hids
  exact hids.nodup_iff.2 hincoming

/-- Merging is replacing: where the ids common to the rows and to the fetched page are in the same
order in both, the merged rows are those of the page. The animated list is told of every change with
an index that is valid for its count then, and has the length of `_items` after each. -/
theorem reconcile_replaces (rows : NotificationRows) (incoming : List Notification)
    (hitems : (rows.items.map Notification.id).Nodup)
    (hincoming : (incoming.map Notification.id).Nodup)
    (horder : (rows.items.map Notification.id).filter (· ∈ incoming.map Notification.id) =
      (incoming.map Notification.id).filter (· ∈ rows.items.map Notification.id)) :
    (rows.reconcile incoming).items.map (fun item ↦ (item.id, item.isNew)) =
        incoming.map (fun item ↦ (item.id, item.isNew)) ∧
      ∃ issued, (rows.reconcile incoming).calls = rows.calls ++ issued ∧
        if rows.listMounted then
          InStep rows.items.length issued (rows.reconcile incoming).items.length
        else issued = [] := by
  refine ⟨?_, (reconcile_keepsInStep rows incoming).2⟩
  simp only [List.filter_map, Function.comp_def] at horder
  have hshown := map_shownRow_settled hincoming (List.filter_subset_self incoming) horder
  rw [reconcile_items hitems]
  refine Lists.map_insertMissing shownRow Prod.fst ?_ hincoming
  rw [hshown]
  exact List.filter_sublist.map shownRow

end Items

end NotificationRows

/-- A notification with an id and a flag. -/
def Notification.numbered (id : Int) (isNew : Bool) : Notification where
  id := id
  createdOn := .epoch
  notificationType := .other
  title := ""
  body := ""
  isNew := isNew
  macAddress := none

/-- The first row is gone, the second is read, and a new one is before it: the animated list removes
its first row and inserts one there. -/
theorem reconcile_replaces_oneArrived :
    let rows : NotificationRows :=
      { items := [.numbered 2 true, .numbered 1 true], listMounted := true }
    let incoming := [.numbered 3 true, .numbered 1 false]
    (rows.reconcile incoming).items.map (fun item ↦ (item.id, item.isNew)) =
        [(3, true), (1, false)] ∧
      ∃ issued, (rows.reconcile incoming).calls = [] ++ issued ∧ InStep 2 issued 2 := by
  intro rows incoming
  obtain ⟨hitems, issued, hcalls, hstep⟩ := NotificationRows.reconcile_replaces rows incoming
    (by decide) (by decide) (by decide)
  have hlength : (rows.reconcile incoming).items.length = 2 := by
    have hmapped := congrArg List.length hitems
    rwa [List.length_map] at hmapped
  rw [if_pos rfl, hlength] at hstep
  exact ⟨hitems, issued, hcalls, hstep⟩

end Oott
