import Mathlib.Data.Set.Card
import Warden.Log.Panels

/-!
# Who gets a line

A line goes to the attached panels one after the other. A panel that is gone or does not take the
line is detached on the way, while the others still wait for theirs. What happened to a panel in the
past decides alone whether it gets the next line: it was attached, and since then it was neither
detached nor did it refuse a line, and somebody still refers to it.

## Main definitions

* `Panels.takes`: a panel is there and takes a line
* `Move`: what happens to panels, lines and the order of the attached ones included
* `IsOn`: a panel is to get the next line, by what happened so far
* `linesFor`: the lines of a history that are for a panel

## Main results

* `made_push`, `attached_push`: the panels after a line, in whatever order they are attached
* `run_unshuffled`: the order in which the attached panels come changes nothing
* `isOn_iff`: the panels that are on are the attached ones that somebody refers to
* `offered_run`: a panel has been offered its lines of the history
* `mirrored_once`: each line reaches each panel that is on once, and no other panel
-/

namespace Warden.Log

/-- A line pushed to a panel is offered to it once. -/
theorem Panel.push_fst (panel : Panel) (line : String) :
    (panel.push line).1 =
      { panel with
        offered := line :: panel.offered
        taken := if (panel.push line).2 then line :: panel.taken else panel.taken } := by
  unfold Panel.push
  cases panel.failsAt with
  | none => rfl
  | some first => by_cases hfails : first ≤ panel.offered.length + 1 <;> simp [hfails]

/-- A panel after a line for the attached ones. One that is gone is offered nothing. -/
def Panel.offer (panel : Panel) (line : String) : Panel :=
  if panel.alive then (panel.push line).1 else panel

@[simp] theorem Panel.attachable_offer (panel : Panel) (line : String) :
    (panel.offer line).attachable = panel.attachable := by
  rw [Panel.offer]
  split
  · rw [Panel.push_fst]
  · rfl

@[simp] theorem Panel.alive_offer (panel : Panel) (line : String) :
    (panel.offer line).alive = panel.alive := by
  rw [Panel.offer]
  split
  · rw [Panel.push_fst]
  · rfl

theorem Panel.offered_offer (panel : Panel) (line : String) :
    (panel.offer line).offered = (if panel.alive then [line] else []) ++ panel.offered := by
  rw [Panel.offer]
  split
  · rw [Panel.push_fst]
    rfl
  · rfl

/-- A panel is there and takes a line. -/
def Panel.takes (panel : Panel) (line : String) : Bool :=
  panel.alive && (panel.push line).2

namespace Panels

/-! ## A line for the attached panels -/

section Line

variable {panels : Panels} {line : String} {id k : Nat}

theorem isAlive_of_some {panel : Panel} (hid : panels.made[id]? = some panel) :
    panels.isAlive id = panel.alive := by
  simp [isAlive, hid]

theorem isAttachable_of_some {panel : Panel} (hid : panels.made[id]? = some panel) :
    panels.isAttachable id = panel.attachable := by
  simp [isAttachable, hid]

theorem exists_of_isAlive (halive : panels.isAlive id) :
    ∃ panel, panels.made[id]? = some panel ∧ panel.alive := by
  cases hid : panels.made[id]? with
  | none => simp [isAlive, hid] at halive
  | some panel => exact ⟨panel, rfl, isAlive_of_some hid ▸ halive⟩

/-- The panel of a number is there and takes a line. -/
def takes (panels : Panels) (line : String) (id : Nat) : Bool :=
  (panels.made[id]?).any (·.takes line)

theorem made_pushTo (panels : Panels) (line : String) (id k : Nat) :
    (panels.pushTo line id).made[k]? =
      if k = id then (panels.made[k]?).map (·.offer line) else panels.made[k]? := by
  cases hid : panels.made[id]? with
  | none =>
    by_cases hk : k = id
    · subst hk
      simp [pushTo, discard, hid]
    · simp [pushTo, discard, hid, hk]
  | some panel =>
    have hlt : id < panels.made.size := (Array.getElem?_eq_some_iff.mp hid).1
    by_cases halive : panel.alive
    · by_cases hk : k = id
      · subst hk
        simp only [pushTo, hid, halive, if_true, Option.map_some, Panel.offer]
        split <;> simp [discard, hlt]
      · have hne : id ≠ k := fun h => hk h.symm
        simp only [pushTo, hid, halive, if_true, if_neg hk]
        split <;> simp [discard, hne]
    · by_cases hk : k = id
      · subst hk
        simp [pushTo, discard, hid, halive, Panel.offer]
      · simp [pushTo, discard, hid, halive, hk]

theorem attached_pushTo (panels : Panels) (line : String) (id : Nat) :
    (panels.pushTo line id).attached =
      panels.attached.filter fun k => k != id || panels.takes line id := by
  cases hid : panels.made[id]? with
  | none => simp [pushTo, discard, takes, hid]
  | some panel =>
    by_cases halive : panel.alive
    · cases htook : (panel.push line).2 with
      | false => simp [pushTo, discard, takes, Panel.takes, hid, halive, htook]
      | true => simp [pushTo, takes, Panel.takes, hid, halive, htook]
    · simp [pushTo, discard, takes, Panel.takes, hid, halive]

/-- A line pushed to some panels, one after the other. -/
def pushAll (panels : Panels) (line : String) (ids : List Nat) : Panels :=
  ids.foldl (fun panels id => panels.pushTo line id) panels

theorem made_pushAll (line : String) (k : Nat) {ids : List Nat} (hnodup : ids.Nodup) :
    ∀ panels : Panels, (panels.pushAll line ids).made[k]? =
      if k ∈ ids then (panels.made[k]?).map (·.offer line) else panels.made[k]? := by
  induction ids with
  | nil => intro panels; simp [pushAll]
  | cons id ids ih =>
    intro panels
    obtain ⟨hid, hids⟩ := List.nodup_cons.mp hnodup
    have hstep : (panels.pushAll line (id :: ids)).made[k]? =
        ((panels.pushTo line id).pushAll line ids).made[k]? := rfl
    rw [hstep, ih hids, made_pushTo]
    by_cases hk : k = id
    · subst hk
      simp [hid]
    · simp [hk]

theorem attached_pushAll (line : String) {ids : List Nat} (hnodup : ids.Nodup) :
    ∀ panels : Panels, (panels.pushAll line ids).attached =
      panels.attached.filter fun k => !ids.contains k || panels.takes line k := by
  induction ids with
  | nil => intro panels; simp [pushAll]
  | cons id ids ih =>
    intro panels
    obtain ⟨hid, hids⟩ := List.nodup_cons.mp hnodup
    have hstep : (panels.pushAll line (id :: ids)).attached =
        ((panels.pushTo line id).pushAll line ids).attached := rfl
    rw [hstep, ih hids, attached_pushTo, List.filter_filter]
    refine List.filter_congr fun k _ => ?_
    by_cases hk : k = id
    · subst hk
      simp [hid]
    · -- the others were not touched by what `id` did with the line
      have hsame : (panels.pushTo line id).takes line k = panels.takes line k := by
        simp [takes, made_pushTo, hk]
      simp [hk, hsame]

theorem made_push (hnodup : panels.attached.Nodup) (line : String) (k : Nat) :
    (panels.push line).made[k]? =
      if k ∈ panels.attached then (panels.made[k]?).map (·.offer line) else panels.made[k]? :=
  made_pushAll line k hnodup panels

/-- Those stay attached that take the line, whatever the order in which they got it. -/
theorem attached_push (hnodup : panels.attached.Nodup) (line : String) :
    (panels.push line).attached = panels.attached.filter (panels.takes line) := by
  have hall := attached_pushAll line hnodup panels
  refine hall.trans (List.filter_congr fun k hk => ?_)
  simp [hk]

theorem emit_ok {entry : Entry} (hline : entry.panelLine = .ok line) (panels : Panels) :
    panels.emit entry = .ok (panels.push line) := by
  unfold emit
  split
  · next hempty => simp [push, List.isEmpty_iff.mp hempty]
  · simp [hline, bind, Except.bind, pure, Except.pure]

end Line

end Panels

/-! ## What happens to panels -/

/-- What happens to panels. -/
inductive Move where
  | attach (id : Nat)
  | detach (id : Nat)
  /-- The last reference to a panel goes away. -/
  | drop (id : Nat)
  /-- A panel refuses lines from another one on, or no more. -/
  | turn (id : Nat) (failsAt : Option Nat)
  /-- The attached panels come in another order. -/
  | shuffle (order : List Nat)
  | emit (entry : Entry)

/-- The line that goes to the panels. -/
def Move.line? : Move → Option String
  | .emit entry => entry.panelLine.toOption
  | _ => none

/-- The order of the attached panels is all that changes. -/
def Move.isShuffle : Move → Bool
  | .shuffle _ => true
  | _ => false

/-- A panel after something happened, by its number and whether it was attached. -/
def Panel.after (panel : Panel) (id : Nat) (isAttached : Bool) (move : Move) : Panel :=
  match move with
  | .drop other => if other = id then { panel with alive := false } else panel
  | .turn other failsAt => if other = id then { panel with failsAt } else panel
  | .emit entry =>
    match entry.panelLine with
    | .ok line => if isAttached then panel.offer line else panel
    | .error _ => panel
  | _ => panel

theorem Panel.attachable_after (panel : Panel) (id : Nat) (isAttached : Bool) (move : Move) :
    (panel.after id isAttached move).attachable = panel.attachable := by
  cases move with
  | drop other | turn other =>
    simp only [Panel.after]
    split <;> rfl
  | emit entry =>
    cases hline : entry.panelLine <;> cases isAttached <;> simp [Panel.after, hline]
  | _ => rfl

theorem Panel.alive_after (panel : Panel) (id : Nat) (isAttached : Bool) (move : Move) :
    (panel.after id isAttached move).alive ↔ panel.alive ∧ move ≠ .drop id := by
  cases move with
  | drop other => by_cases hother : other = id <;> simp [Panel.after, hother]
  | turn other failsAt => by_cases hother : other = id <;> simp [Panel.after, hother]
  | emit entry =>
    cases hline : entry.panelLine <;> cases isAttached <;> simp [Panel.after, hline]
  | _ => simp [Panel.after]

theorem Panel.offered_after (panel : Panel) (id : Nat) (isAttached : Bool) (move : Move) :
    (panel.after id isAttached move).offered =
      (if isAttached && panel.alive then move.line?.toList else []) ++ panel.offered := by
  cases move with
  | drop other => by_cases hother : other = id <;> simp [Panel.after, Move.line?, hother]
  | turn other failsAt => by_cases hother : other = id <;> simp [Panel.after, Move.line?, hother]
  | emit entry =>
    cases hline : entry.panelLine <;> cases isAttached <;>
      simp [Panel.after, Panel.offered_offer, Move.line?, Except.toOption, hline]
  | _ => simp [Panel.after, Move.line?]

namespace Panels

/-- The panels after something happened. -/
def after (panels : Panels) : Move → Panels
  | .attach id => panels.attach id
  | .detach id => panels.detach id
  | .drop id => panels.drop id
  | .turn id failsAt =>
    { panels with made := panels.made.modify id fun panel => { panel with failsAt } }
  | .shuffle order =>
    if order.Perm panels.attached then { panels with attached := order } else panels
  | .emit entry =>
    match panels.emit entry with
    | .ok after => after
    | .error _ => panels

/-- The panels after a history. In the beginning none is attached. -/
def run (made : Array Panel) (moves : List Move) : Panels :=
  moves.foldl after { made }

theorem run_snoc (made : Array Panel) (moves : List Move) (move : Move) :
    run made (moves ++ [move]) = (run made moves).after move := by
  simp [run]

section Step

variable {panels : Panels} {id : Nat}

theorem after_emit_ok {entry : Entry} {line : String} (hline : entry.panelLine = .ok line)
    (panels : Panels) : panels.after (.emit entry) = panels.push line := by
  simp [after, emit_ok hline]

theorem after_emit_error {entry : Entry} {failure : Failure}
    (hline : entry.panelLine = .error failure) (panels : Panels) :
    panels.after (.emit entry) = panels := by
  by_cases hempty : panels.attached.isEmpty <;> simp [after, emit, hempty, hline, bind, Except.bind]

theorem attach_eq (panels : Panels) (id : Nat) :
    panels.attach id = if panels.isAttachable id ∧ id ∉ panels.attached then
      { panels with attached := panels.attached ++ [id] } else panels := by
  by_cases hid : panels.isAttachable id <;> by_cases hmem : id ∈ panels.attached <;>
    simp [attach, add, hid, hmem]

theorem detach_eq (panels : Panels) (id : Nat) :
    panels.detach id = if panels.isAttachable id then panels.discard id else panels := by
  by_cases hid : panels.isAttachable id <;> simp [detach, remove, hid]

/-- Nobody is attached twice, and only panels that can be attached are. -/
structure Tidy (panels : Panels) : Prop where
  nodup : panels.attached.Nodup
  attachable : ∀ id ∈ panels.attached, panels.isAttachable id

theorem made_after (htidy : panels.Tidy) (move : Move) (id : Nat) :
    (panels.after move).made[id]? =
      (panels.made[id]?).map fun panel => panel.after id (id ∈ panels.attached) move := by
  cases move with
  | attach other => simp only [after, attach_eq]; split <;> simp [Panel.after]
  | detach other => simp only [after, detach_eq]; split <;> simp [Panel.after, discard]
  | shuffle order => simp only [after]; split <;> simp [Panel.after]
  | drop other =>
    by_cases hother : other = id <;>
      simp [after, drop, Array.getElem?_modify, Panel.after, hother]
  | turn other failsAt =>
    by_cases hother : other = id <;> simp [after, Array.getElem?_modify, Panel.after, hother]
  | emit entry =>
    cases hline : entry.panelLine with
    | error => simp [after_emit_error hline, Panel.after, hline]
    | ok line =>
      rw [after_emit_ok hline, made_push htidy.nodup]
      by_cases hmem : id ∈ panels.attached <;> simp [Panel.after, hline, hmem]

theorem mem_after (htidy : panels.Tidy) (move : Move) (hid : panels.isAttachable id) :
    id ∈ (panels.after move).attached ↔ move = .attach id ∨ id ∈ panels.attached ∧
      move ≠ .detach id ∧ ∀ line, move.line? = some line → panels.takes line id := by
  cases move with
  | attach other =>
    simp only [after, attach_eq]
    by_cases hother : other = id
    · subst hother
      by_cases hmem : other ∈ panels.attached <;> simp [hid, hmem]
    · have hne : id ≠ other := fun h => hother h.symm
      split <;> simp [Move.line?, hother, hne]
  | detach other =>
    simp only [after, detach_eq]
    by_cases hother : other = id
    · subst hother
      simp [hid, discard]
    · have hne : id ≠ other := fun h => hother h.symm
      split <;> simp [Move.line?, discard, hother, hne]
  | drop other => simp [after, drop, Move.line?]
  | turn other failsAt => simp [after, Move.line?]
  | shuffle order =>
    simp only [after]
    split
    · next hperm => simp [Move.line?, hperm.mem_iff]
    · simp [Move.line?]
  | emit entry =>
    cases hline : entry.panelLine with
    | error => simp [after_emit_error hline, Move.line?, hline, Except.toOption]
    | ok line =>
      rw [after_emit_ok hline, attached_push htidy.nodup]
      simp [Move.line?, hline, Except.toOption]

theorem isAttachable_after (htidy : panels.Tidy) (move : Move) (id : Nat) :
    (panels.after move).isAttachable id = panels.isAttachable id := by
  simp only [isAttachable, made_after htidy]
  cases panels.made[id]? with
  | none => rfl
  | some panel => exact Panel.attachable_after ..

theorem isAlive_after (htidy : panels.Tidy) (move : Move) (id : Nat) :
    (panels.after move).isAlive id ↔ panels.isAlive id ∧ move ≠ .drop id := by
  simp only [isAlive, made_after htidy]
  cases panels.made[id]? with
  | none => simp
  | some panel => exact Panel.alive_after ..

theorem Tidy.after (htidy : panels.Tidy) (move : Move) : (panels.after move).Tidy := by
  suffices hattached : (panels.after move).attached.Nodup ∧
      ∀ id ∈ (panels.after move).attached, panels.isAttachable id from
    ⟨hattached.1, fun id hid => (isAttachable_after htidy move id).trans (hattached.2 id hid)⟩
  obtain ⟨hnodup, hattachable⟩ := htidy
  cases move with
  | attach other =>
    simp only [Panels.after, attach_eq]
    split
    · next hnew =>
      refine ⟨by simpa [List.nodup_append] using ⟨hnodup, fun id hid h => hnew.2 (h ▸ hid)⟩, ?_⟩
      intro id hid
      rcases List.mem_append.mp hid with hold | hlast
      · exact hattachable id hold
      · exact List.mem_singleton.mp hlast ▸ hnew.1
    · exact ⟨hnodup, hattachable⟩
  | detach other =>
    simp only [Panels.after, detach_eq]
    split
    · exact ⟨hnodup.filter _, fun id hid => hattachable id (List.mem_filter.mp hid).1⟩
    · exact ⟨hnodup, hattachable⟩
  | drop | turn => exact ⟨hnodup, hattachable⟩
  | shuffle order =>
    simp only [Panels.after]
    split
    · next hperm =>
      exact ⟨hperm.nodup_iff.mpr hnodup, fun id hid => hattachable id (hperm.mem_iff.mp hid)⟩
    · exact ⟨hnodup, hattachable⟩
  | emit entry =>
    cases hline : entry.panelLine with
    | error => rw [after_emit_error hline]; exact ⟨hnodup, hattachable⟩
    | ok line =>
      rw [after_emit_ok hline, attached_push hnodup]
      exact ⟨hnodup.filter _, fun id hid => hattachable id (List.mem_filter.mp hid).1⟩

/-- The order of the attached panels does not matter for what happens to them. -/
theorem after_congr {other : Panels} (htidy : panels.Tidy) (hother : other.Tidy)
    (hmade : panels.made = other.made) (hperm : panels.attached.Perm other.attached) (move : Move) :
    (panels.after move).made = (other.after move).made ∧
      (panels.after move).attached.Perm (other.after move).attached := by
  refine ⟨Array.ext_getElem? fun id => ?_, ?_⟩
  · rw [made_after htidy, made_after hother, hmade]
    simp only [hperm.mem_iff]
  · refine (List.perm_ext_iff_of_nodup (htidy.after move).nodup (hother.after move).nodup).mpr
      fun id => ?_
    have hsame : panels.isAttachable id = other.isAttachable id := by simp [isAttachable, hmade]
    by_cases hid : panels.isAttachable id
    · have htakes (line : String) : panels.takes line id = other.takes line id := by
        simp [takes, hmade]
      rw [mem_after htidy move hid, mem_after hother move (hsame ▸ hid), hperm.mem_iff]
      simp only [htakes]
    · constructor <;> intro hmem <;> refine absurd ?_ hid
      · exact (isAttachable_after htidy move id).symm.trans ((htidy.after move).attachable id hmem)
      · rw [hsame, ← isAttachable_after hother move id]
        exact (hother.after move).attachable id hmem

theorem after_shuffle (panels : Panels) {move : Move} (hshuffle : move.isShuffle) :
    (panels.after move).made = panels.made ∧
      (panels.after move).attached.Perm panels.attached := by
  cases move with
  | shuffle order =>
    simp only [after]
    split
    · next hperm => exact ⟨rfl, hperm⟩
    · exact ⟨rfl, .rfl⟩
  | _ => cases hshuffle

end Step

/-! ## A history -/

section History

variable {made : Array Panel} {moves : List Move} {move : Move} {id : Nat}

theorem tidy_run (made : Array Panel) (moves : List Move) : (run made moves).Tidy := by
  induction moves using List.reverseRecOn with
  | nil => exact ⟨List.nodup_nil, by simp [run]⟩
  | append_singleton moves move ih =>
    rw [run_snoc]
    exact ih.after move

/-- The panels end up the same in whatever order they came, and the same ones are attached. -/
theorem run_unshuffled (made : Array Panel) (moves : List Move) :
    (run made moves).made = (run made (moves.filter (!·.isShuffle))).made ∧
      (run made moves).attached.Perm (run made (moves.filter (!·.isShuffle))).attached := by
  induction moves using List.reverseRecOn with
  | nil => exact ⟨rfl, .rfl⟩
  | append_singleton moves move ih =>
    rw [List.filter_append, run_snoc]
    cases hshuffle : move.isShuffle with
    | true =>
      obtain ⟨hmade, hperm⟩ := after_shuffle (run made moves) hshuffle
      simpa [hshuffle, hmade] using And.intro ih.1 (hperm.trans ih.2)
    | false =>
      rw [List.filter_singleton, hshuffle, Bool.not_false, cond_true, run_snoc]
      exact after_congr (tidy_run ..) (tidy_run ..) ih.1 ih.2 move

/-- A panel was attached, and since then it was not detached and took each line. -/
def IsKept (made : Array Panel) (moves : List Move) (id : Nat) : Prop :=
  ∃ before since, moves = before ++ .attach id :: since ∧ .detach id ∉ since ∧
    ∀ earlier move later line, since = earlier ++ move :: later → move.line? = some line →
      (run made (before ++ .attach id :: earlier)).takes line id

/-- A panel that can be attached was attached, since then it was not detached and took each line,
and somebody still refers to it. -/
structure IsOn (made : Array Panel) (moves : List Move) (id : Nat) : Prop where
  attachable : (run made []).isAttachable id
  alive : (run made []).isAlive id
  undropped : .drop id ∉ moves
  kept : IsKept made moves id

theorem isKept_nil : ¬ IsKept made [] id := by
  rintro ⟨before, since, h, -⟩
  simp at h

theorem isKept_snoc : IsKept made (moves ++ [move]) id ↔ move = .attach id ∨
    IsKept made moves id ∧ move ≠ .detach id ∧
      ∀ line, move.line? = some line → (run made moves).takes line id := by
  constructor
  · rintro ⟨before, since, heq, hdetach, htook⟩
    rcases List.eq_nil_or_concat' since with rfl | ⟨since, last, rfl⟩
    · have hlast := List.append_inj_right' heq rfl
      exact .inl (by simpa using hlast)
    · rw [← List.cons_append, ← List.append_assoc] at heq
      obtain ⟨rfl, hlast⟩ := List.append_inj' heq rfl
      obtain rfl : move = last := by simpa using hlast
      refine .inr ⟨⟨before, since, rfl, ?_, ?_⟩, ?_, ?_⟩
      · exact fun h => hdetach (by simp [h])
      · rintro earlier other later line rfl hline
        exact htook earlier other (later ++ [move]) line (by simp) hline
      · rintro rfl
        exact hdetach (by simp)
      · intro line hline
        exact htook since move [] line (by simp) hline
  · rintro (rfl | ⟨⟨before, since, rfl, hdetach, htook⟩, hmove, htakes⟩)
    · exact ⟨moves, [], rfl, by simp, by simp⟩
    · refine ⟨before, since ++ [move], by simp, ?_, ?_⟩
      · simp [hdetach, hmove.symm]
      · intro earlier other later line heq hline
        rcases List.eq_nil_or_concat' later with rfl | ⟨later, last, rfl⟩
        · obtain ⟨rfl, hlast⟩ := List.append_inj' heq rfl
          obtain rfl : move = other := by simpa using hlast
          exact htakes line hline
        · rw [← List.cons_append, ← List.append_assoc] at heq
          obtain ⟨rfl, -⟩ := List.append_inj' heq rfl
          exact htook earlier other later line rfl hline

theorem isAttachable_run (made : Array Panel) (moves : List Move) (id : Nat) :
    (run made moves).isAttachable id = (run made []).isAttachable id := by
  induction moves using List.reverseRecOn with
  | nil => rfl
  | append_singleton moves move ih =>
    rw [run_snoc, isAttachable_after (tidy_run made moves), ih]

theorem isAlive_run (made : Array Panel) (moves : List Move) (id : Nat) :
    (run made moves).isAlive id ↔ (run made []).isAlive id ∧ .drop id ∉ moves := by
  induction moves using List.reverseRecOn with
  | nil => simp
  | append_singleton moves move ih =>
    rw [run_snoc, isAlive_after (tidy_run made moves), ih, and_assoc, List.mem_append, not_or,
      List.mem_singleton, ne_comm]

/-- Whoever was ever attached and kept is attached, gone or not. -/
theorem mem_attached_run (hid : (run made []).isAttachable id) :
    id ∈ (run made moves).attached ↔ IsKept made moves id := by
  induction moves using List.reverseRecOn with
  | nil => simpa [run] using isKept_nil
  | append_singleton moves move ih =>
    have hnow := (isAttachable_run made moves id).trans hid
    rw [run_snoc, mem_after (tidy_run made moves) move hnow, ih, isKept_snoc]

theorem isOn_iff : IsOn made moves id ↔
    id ∈ (run made moves).attached ∧ (run made moves).isAlive id := by
  constructor
  · intro hon
    exact ⟨(mem_attached_run hon.attachable).mpr hon.kept,
      (isAlive_run made moves id).mpr ⟨hon.alive, hon.undropped⟩⟩
  · rintro ⟨hmem, halive⟩
    have hid := (isAttachable_run made moves id).symm.trans
      ((tidy_run made moves).attachable id hmem)
    obtain ⟨hthere, hundropped⟩ := (isAlive_run made moves id).mp halive
    exact ⟨hid, hthere, hundropped, (mem_attached_run hid).mp hmem⟩

theorem count_run (made : Array Panel) (moves : List Move) :
    (run made moves).count = {id | IsOn made moves id}.ncard := by
  have hset : {id | IsOn made moves id} =
      ↑((run made moves).attached.filter (run made moves).isAlive).toFinset := by
    ext id
    simp [isOn_iff]
  rw [hset, Set.ncard_coe_finset,
    List.toFinset_card_of_nodup ((tidy_run made moves).nodup.filter _), count,
    List.countP_eq_length_filter]

-- a panel that is attached twice counts once, and one that is gone does not count
example : (run #[{}, {}] [.attach 0, .attach 1, .attach 0, .drop 1]).count = 1 := by decide

open Classical in
/-- The lines of a history for a panel: one for each line that went to the panels while this one was
on, the first one first. -/
noncomputable def linesFor (made : Array Panel) (moves : List Move) (id : Nat) : List String :=
  (List.range moves.length).filterMap fun k =>
    if IsOn made (moves.take k) id then moves[k]?.bind Move.line? else none

open Classical in
theorem linesFor_snoc : linesFor made (moves ++ [move]) id =
    linesFor made moves id ++ if IsOn made moves id then move.line?.toList else [] := by
  -- what happens last does not change who was on before
  have hbefore : ∀ k ∈ List.range moves.length,
      (if IsOn made ((moves ++ [move]).take k) id then (moves ++ [move])[k]?.bind Move.line?
        else none) =
      if IsOn made (moves.take k) id then moves[k]?.bind Move.line? else none := by
    intro k hk
    have hlt : k < moves.length := List.mem_range.mp hk
    simp only [List.take_append_of_le_length hlt.le, List.getElem?_append_left hlt]
  simp only [linesFor, List.length_append, List.length_singleton, List.range_succ,
    List.filterMap_append, List.filterMap_congr hbefore]
  by_cases hon : IsOn made moves id
  · cases hline : move.line? <;> simp [hon, hline]
  · simp [hon]

/-- A panel has been offered its lines of the history, and nothing else. -/
theorem offered_run (made : Array Panel) (moves : List Move) (id : Nat) :
    ((run made moves).made[id]?).map Panel.offered =
      (made[id]?).map fun panel => (linesFor made moves id).reverse ++ panel.offered := by
  classical
  induction moves using List.reverseRecOn with
  | nil => simp [run, linesFor]
  | append_singleton moves move ih =>
    rw [run_snoc, made_after (tidy_run made moves), linesFor_snoc]
    cases hpanel : (run made moves).made[id]? with
    | none =>
      rw [hpanel] at ih
      simpa using ih
    | some panel =>
      have hon : IsOn made moves id ↔ id ∈ (run made moves).attached ∧ panel.alive := by
        rw [isOn_iff, isAlive_of_some hpanel]
      obtain ⟨first, hfirst, hoffered⟩ :
          ∃ first, made[id]? = some first ∧
            (linesFor made moves id).reverse ++ first.offered = panel.offered := by
        simpa [hpanel, eq_comm] using ih
      rw [Option.map_some, Option.map_some, Panel.offered_after, ← hoffered, hfirst]
      by_cases hnow : id ∈ (run made moves).attached ∧ panel.alive <;>
        cases move.line? <;> simp [hon, hnow]

theorem linesFor_of_not_attachable (hid : (run made []).isAttachable id = false) :
    linesFor made moves id = [] := by
  refine List.filterMap_eq_nil_iff.mpr fun k _ => if_neg fun hon => ?_
  simpa [hid] using hon.attachable

/-- **Each line reaches each panel that is on once, and no other panel.** Whatever happened to the
panels, and in whatever order the attached ones come: an entry that has a line is offered to each
panel that is on, and such a panel stays attached if it takes the line; all other panels are as
before. A panel has been offered its lines of the history and nothing else, the panels that are
counted are those that are on, and the order in which they came has changed nothing. A panel that
cannot be attached is refused without notice, and is offered nothing. -/
theorem mirrored_once (made : Array Panel) (moves : List Move) :
    (∀ entry line, entry.panelLine = .ok line → ∃ after, (run made moves).emit entry = .ok after ∧
      ∀ id,
        (IsOn made moves id → ∃ panel, (run made moves).made[id]? = some panel ∧
          after.made[id]? = some (panel.push line).1 ∧
          (panel.push line).1.offered = line :: panel.offered ∧
          (id ∈ after.attached ↔ (panel.push line).2)) ∧
        (¬ IsOn made moves id → after.made[id]? = (run made moves).made[id]?)) ∧
    (∀ id, ((run made moves).made[id]?).map Panel.offered =
      (made[id]?).map fun panel => (linesFor made moves id).reverse ++ panel.offered) ∧
    (run made moves).count = {id | IsOn made moves id}.ncard ∧
    (run made moves).made = (run made (moves.filter (!·.isShuffle))).made ∧
    ∀ id panel, made[id]? = some panel → panel.attachable = false →
      (run made moves).add id = .error ⟨id⟩ ∧ (run made moves).attach id = run made moves ∧
      (run made moves).remove id = .error ⟨id⟩ ∧ (run made moves).detach id = run made moves ∧
      ((run made moves).made[id]?).map Panel.offered = some panel.offered := by
  refine ⟨fun entry line hline => ⟨_, emit_ok hline _, fun id => ⟨fun hon => ?_, fun hoff => ?_⟩⟩,
    offered_run made moves, count_run made moves, (run_unshuffled made moves).1,
    fun id panel hpanel hrefused => ?_⟩
  · obtain ⟨hmem, halive⟩ := isOn_iff.mp hon
    obtain ⟨panel, hpanel, hthere⟩ := exists_of_isAlive halive
    refine ⟨panel, hpanel, ?_, by rw [Panel.push_fst], ?_⟩
    · simp [made_push (tidy_run made moves).nodup, hmem, hpanel, Panel.offer, hthere]
    · simp [attached_push (tidy_run made moves).nodup, hmem, takes, Panel.takes, hpanel, hthere]
  · rw [made_push (tidy_run made moves).nodup]
    split
    · next hmem =>
      -- an attached panel that is not on is gone, and one that is gone is offered nothing
      cases hpanel : (run made moves).made[id]? with
      | none => rfl
      | some panel =>
        have hgone : ¬ panel.alive := fun halive =>
          hoff (isOn_iff.mpr ⟨hmem, (isAlive_of_some hpanel).trans halive⟩)
        simp [Panel.offer, hgone]
    · rfl
  · have hnever : (run made []).isAttachable id = false :=
      (isAttachable_of_some hpanel).trans hrefused
    have hnow := (isAttachable_run made moves id).trans hnever
    refine ⟨by simp [add, hnow], by simp [attach, add, hnow], by simp [remove, hnow],
      by simp [detach, remove, hnow], ?_⟩
    rw [offered_run, hpanel, linesFor_of_not_attachable hnever]
    rfl

end History

end Panels

end Warden.Log
