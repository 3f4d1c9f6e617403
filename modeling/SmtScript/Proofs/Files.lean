import SmtScript.Host.FileSystem
import SmtScript.Proofs.Decimals

/-!
# Files that are written and taken away

Where a path leads depends only on what there is at the locations. So a path goes on leading where
it led when a file is made there, and the file then holds what was written, whatever it held
before. A path whose last part was taken away leads to nothing, not even to a link.
-/

namespace SmtScript.Host.FileSystem

open Utf8 (Bytes)

variable {fs gs : FileSystem}

/-! ## What there is at a location -/

theorem lookup_filter_ne {α β : Type} [BEq α] [LawfulBEq α] [DecidableEq α] (a b : α) :
    ∀ l : List (α × β), (l.filter fun entry => decide (entry.1 ≠ b)).lookup a =
      if a = b then none else l.lookup a
  | [] => by simp
  | (key, value) :: rest => by
      have ih := lookup_filter_ne a b rest
      by_cases hkey : key = b
      · subst hkey
        rw [List.filter_cons_of_neg (by simp), ih, List.lookup_cons]
        by_cases ha : a = key
        · rw [if_pos ha, if_pos ha]
        · rw [if_neg ha, if_neg ha, beq_false_of_ne ha]
      · rw [List.filter_cons_of_pos (by simpa using hkey), List.lookup_cons, List.lookup_cons, ih]
        by_cases ha : a = b
        · subst ha
          rw [if_pos rfl, if_pos rfl, beq_false_of_ne (Ne.symm hkey)]
        · rw [if_neg ha, if_neg ha]

theorem at?_of_ne_nil {loc : Location} (h : loc ≠ []) : fs.at? loc = fs.entries.lookup loc := by
  rw [at?, if_neg (by simpa using h)]

theorem entries_putAt (loc : Location) (e : Entry) :
    (fs.putAt loc e).entries = (loc, e) :: fs.entries.filter fun entry => entry.1 ≠ loc := by
  unfold putAt touched putTrait
  cases e <;> (dsimp only; split <;> rfl)

theorem working_putAt (loc : Location) (e : Entry) : (fs.putAt loc e).working = fs.working := by
  unfold putAt touched putTrait
  cases e <;> (dsimp only; split <;> rfl)

theorem at?_putAt {loc : Location} (hloc : loc ≠ []) (e : Entry) (other : Location) :
    (fs.putAt loc e).at? other = if other = loc then some e else fs.at? other := by
  by_cases hother : other = []
  · subst hother
    rw [if_neg (Ne.symm hloc)]
    rfl
  · rw [at?_of_ne_nil hother, at?_of_ne_nil hother, entries_putAt, List.lookup_cons,
      lookup_filter_ne]
    by_cases h : other = loc
    · subst h
      simp
    · rw [if_neg h, if_neg h, beq_false_of_ne h]

theorem at?_eraseAt (fs : FileSystem) {loc : Location} (hloc : loc ≠ []) (other : Location) :
    (fs.eraseAt loc).at? other = if other = loc then none else fs.at? other := by
  by_cases hother : other = []
  · subst hother
    rw [if_neg (Ne.symm hloc)]
    rfl
  · rw [at?_of_ne_nil hother, at?_of_ne_nil hother]
    exact lookup_filter_ne other loc fs.entries

theorem node?_putNode (number : Nat) (node : Node) :
    (fs.putNode number node).node? number = some node := by
  rw [putNode, node?, List.lookup_cons, beq_self_eq_true]

/-! ## Ways to a location -/

/-- The part is a name that can be looked up in the directory. -/
def Names (loc : Location) (part : Raw) : Prop :=
  ¬ (part = [] ∨ part = ['.']) ∧ part ≠ ['.', '.'] ∧ ¬ nameLimit < part.length ∧
    isBuried loc = false

/-- The parts lead from one location to another, with so many links and steps left. -/
inductive Leads (fs : FileSystem) (last : Bool) :
    Nat → Nat → Location → List Raw → Location → Prop
  | arrived {links steps : Nat} (loc : Location) : Leads fs last links (steps + 1) loc [] loc
  | stay {links steps : Nat} {loc target : Location} {part : Raw} {rest : List Raw}
      (hloc : fs.at? loc = some .directory) (hpart : part = [] ∨ part = ['.'])
      (h : Leads fs last links steps loc rest target) :
      Leads fs last links (steps + 1) loc (part :: rest) target
  | up {links steps : Nat} {loc target : Location} {rest : List Raw}
      (hloc : fs.at? loc = some .directory)
      (h : Leads fs last links steps loc.dropLast rest target) :
      Leads fs last links (steps + 1) loc (['.', '.'] :: rest) target
  | enter {links steps : Nat} {loc target : Location} {part : Raw} {rest : List Raw}
      (hloc : fs.at? loc = some .directory) (hpart : Names loc part)
      (hplain : ∀ dest, fs.at? (loc ++ [part]) ≠ some (.link dest))
      (h : Leads fs last links steps (loc ++ [part]) rest target) :
      Leads fs last links (steps + 1) loc (part :: rest) target
  | follow {links steps : Nat} {loc target : Location} {part dest : Raw} {rest : List Raw}
      (hloc : fs.at? loc = some .directory) (hpart : Names loc part)
      (hlink : fs.at? (loc ++ [part]) = some (.link dest)) (hrest : rest ≠ [] ∨ last = true)
      (h : Leads fs last links steps (if Path.isAbsolute dest then [] else loc)
        (Path.split dest ++ rest) target) :
      Leads fs last (links + 1) (steps + 1) loc (part :: rest) target
  /-- The last part is a link, and is not followed. -/
  | stop {links steps : Nat} {loc : Location} {part dest : Raw}
      (hloc : fs.at? loc = some .directory) (hpart : Names loc part)
      (hlink : fs.at? (loc ++ [part]) = some (.link dest)) (hlast : last = false) :
      Leads fs last links (steps + 1) loc [part] (loc ++ [part])

section

variable {last : Bool} {links steps : Nat} {loc source target : Location} {parts : List Raw}

theorem walk_here {part : Raw} {rest : List Raw} (hloc : fs.at? source = some .directory)
    (hpart : part = [] ∨ part = ['.']) :
    fs.walk last links (steps + 1) source (part :: rest) =
      fs.walk last links steps source rest := by
  rw [walk, hloc]
  simp only [hpart, if_true]

theorem walk_up {rest : List Raw} (hloc : fs.at? source = some .directory) :
    fs.walk last links (steps + 1) source (['.', '.'] :: rest) =
      fs.walk last links steps source.dropLast rest := by
  rw [walk, hloc]
  rfl

/-- What the walk does with a name. -/
theorem walk_name {part : Raw} {rest : List Raw} (hloc : fs.at? source = some .directory)
    (hpart : Names source part) :
    fs.walk last links (steps + 1) source (part :: rest) =
      match fs.at? (source ++ [part]) with
      | some (.link dest) =>
          if rest.isEmpty && !last then .ok (source ++ [part])
          else if links = 0 then .error .circular
          else fs.walk last (links - 1) steps (if Path.isAbsolute dest then [] else source)
            (Path.split dest ++ rest)
      | _ => fs.walk last links steps (source ++ [part]) rest := by
  obtain ⟨hdots, hup, hlength, hburied⟩ := hpart
  have hkept : ¬ isBuried source = true := by rw [hburied]; exact Bool.false_ne_true
  rw [walk, hloc]
  exact (if_neg hdots).trans ((if_neg hup).trans ((if_neg hlength).trans (if_neg hkept)))

theorem directory_of_walk {part : Raw} {rest : List Raw}
    (h : fs.walk last links (steps + 1) source (part :: rest) = .ok target) :
    fs.at? source = some .directory := by
  rw [walk] at h
  split at h
  · assumption
  · cases h
  · cases h

theorem names_of_walk {part : Raw} {rest : List Raw}
    (h : fs.walk last links (steps + 1) source (part :: rest) = .ok target)
    (hdots : ¬ (part = [] ∨ part = ['.'])) (hup : part ≠ ['.', '.']) : Names source part := by
  rw [walk, directory_of_walk h] at h
  simp only [hdots, hup, if_false] at h
  split at h
  · cases h
  · next hlength =>
    split at h
    · cases h
    · next hburied => exact ⟨hdots, hup, hlength, by simpa using hburied⟩

theorem leads_of_walk (h : fs.walk last links steps source parts = .ok target) :
    fs.Leads last links steps source parts target := by
  induction steps generalizing links source parts with
  | zero => cases h
  | succ steps ih =>
      cases parts with
      | nil => cases h; exact .arrived _
      | cons part rest =>
          have hloc := directory_of_walk h
          by_cases hdots : part = [] ∨ part = ['.']
          · rw [walk_here hloc hdots] at h
            exact .stay hloc hdots (ih h)
          by_cases hup : part = ['.', '.']
          · subst hup
            rw [walk_up hloc] at h
            exact .up hloc (ih h)
          have hpart := names_of_walk h hdots hup
          rw [walk_name hloc hpart] at h
          split at h
          · next dest hlink =>
            split at h
            · next hstop =>
              cases h
              simp only [Bool.and_eq_true, List.isEmpty_iff, Bool.not_eq_true'] at hstop
              obtain ⟨rfl, hlast⟩ := hstop
              exact .stop hloc hpart hlink hlast
            · next hrest =>
              split at h
              · cases h
              · next hlinks =>
                obtain ⟨fewer, rfl⟩ := Nat.exists_eq_succ_of_ne_zero hlinks
                rw [Bool.not_eq_true, Bool.and_eq_false_iff, List.isEmpty_eq_false_iff,
                  Bool.not_eq_false'] at hrest
                exact .follow hloc hpart hlink hrest (ih h)
          · next hplain => exact .enter hloc hpart (fun dest hdest => hplain dest hdest) (ih h)

theorem walk_of_leads (h : fs.Leads last links steps source parts target) :
    fs.walk last links steps source parts = .ok target := by
  induction h with
  | arrived loc => rfl
  | stay hloc hpart h ih =>
      rw [walk_here hloc hpart]
      exact ih
  | up hloc h ih =>
      rw [walk_up hloc]
      exact ih
  | enter hloc hpart hplain h ih =>
      rw [walk_name hloc hpart]
      split
      · next dest hdest => exact absurd hdest (hplain dest)
      · exact ih
  | @follow links steps loc target part dest rest hloc hpart hlink hrest h ih =>
      rw [walk_name hloc hpart, hlink]
      have hgoesOn : (rest.isEmpty && !last) = false := by
        rcases hrest with hrest | hlast
        · rw [List.isEmpty_eq_false_iff.mpr hrest, Bool.false_and]
        · rw [hlast, Bool.not_true, Bool.and_false]
      simp only [hgoesOn, Nat.add_one_ne_zero, if_false, Bool.false_eq_true]
      exact ih
  | stop hloc hpart hlink hlast =>
      rw [walk_name hloc hpart, hlink, hlast]
      rfl

/-- Where a path leads depends only on what there is at the locations. -/
theorem walk_congr (h : ∀ other, gs.at? other = fs.at? other) :
    gs.walk last links steps source parts = fs.walk last links steps source parts := by
  induction steps generalizing links source parts with
  | zero => rfl
  | succ steps ih => simp only [walk, h, ih]

/-- No path leads on from the location. -/
structure IsEnd (fs : FileSystem) (loc : Location) : Prop where
  not_directory : fs.at? loc ≠ some .directory
  not_link : ∀ dest, fs.at? loc ≠ some (.link dest)

theorem IsEnd.of_file {number : Nat} (h : fs.at? loc = some (.file number)) : fs.IsEnd loc := by
  constructor
  · rw [h]
    nofun
  · rw [h]
    nofun

theorem IsEnd.of_none (h : fs.at? loc = none) : fs.IsEnd loc := by
  constructor
  · rw [h]
    nofun
  · rw [h]
    nofun

theorem IsEnd.ne_nil (h : fs.IsEnd loc) : loc ≠ [] := by
  rintro rfl
  exact h.not_directory rfl

/-- Parts lead where they led when something else than a link is put where nothing led on. -/
theorem Leads.of_end (hend : fs.IsEnd loc) (hplain : ∀ dest, gs.at? loc ≠ some (.link dest))
    (hagree : ∀ other, other ≠ loc → gs.at? other = fs.at? other)
    (h : fs.Leads last links steps source parts target) :
    gs.Leads last links steps source parts target := by
  have hdirectory (other : Location) (hother : fs.at? other = some .directory) :
      gs.at? other = some .directory := by
    rw [hagree other (fun hsame => hend.not_directory (hsame ▸ hother)), hother]
  have hlink (other : Location) (dest : Raw) (hother : fs.at? other = some (.link dest)) :
      gs.at? other = some (.link dest) := by
    rw [hagree other (fun hsame => hend.not_link dest (hsame ▸ hother)), hother]
  induction h with
  | arrived loc => exact .arrived loc
  | stay hloc hpart _ ih => exact .stay (hdirectory _ hloc) hpart ih
  | up hloc _ ih => exact .up (hdirectory _ hloc) ih
  | @enter _ _ source _ part _ hloc hpart hnone _ ih =>
      refine .enter (hdirectory _ hloc) hpart (fun dest => ?_) ih
      by_cases hnew : source ++ [part] = loc
      · rw [hnew]
        exact hplain dest
      · rw [hagree _ hnew]
        exact hnone dest
  | follow hloc hpart hdest hrest _ ih =>
      exact .follow (hdirectory _ hloc) hpart (hlink _ _ hdest) hrest ih
  | stop hloc hpart hdest hlast => exact .stop (hdirectory _ hloc) hpart (hlink _ _ hdest) hlast

/-- Parts that lead somewhere led there before, unless it is where something was put from which
nothing leads on. -/
theorem Leads.before_end (hend : gs.IsEnd loc)
    (hagree : ∀ other, other ≠ loc → gs.at? other = fs.at? other)
    (h : gs.Leads last links steps source parts target) :
    target = loc ∨ fs.Leads last links steps source parts target := by
  have hdirectory (other : Location) (hother : gs.at? other = some .directory) :
      fs.at? other = some .directory := by
    rw [← hagree other (fun hsame => hend.not_directory (hsame ▸ hother)), hother]
  have hlink (other : Location) (dest : Raw) (hother : gs.at? other = some (.link dest)) :
      fs.at? other = some (.link dest) := by
    rw [← hagree other (fun hsame => hend.not_link dest (hsame ▸ hother)), hother]
  induction h with
  | arrived loc => exact .inr (.arrived loc)
  | stay hloc hpart _ ih => exact ih.imp_right (.stay (hdirectory _ hloc) hpart)
  | up hloc _ ih => exact ih.imp_right (.up (hdirectory _ hloc))
  | @enter _ _ source target part rest hloc hpart hplain h ih =>
      by_cases hnew : source ++ [part] = loc
      · rw [hnew] at h
        cases h with
        | arrived => exact .inl rfl
        | stay hloc | up hloc | enter hloc | follow hloc | stop hloc =>
            exact absurd hloc hend.not_directory
      · rw [hagree _ hnew] at hplain
        exact ih.imp_right (.enter (hdirectory _ hloc) hpart hplain)
  | follow hloc hpart hdest hrest _ ih =>
      exact ih.imp_right (.follow (hdirectory _ hloc) hpart (hlink _ _ hdest) hrest)
  | stop hloc hpart hdest hlast =>
      exact .inr (.stop (hdirectory _ hloc) hpart (hlink _ _ hdest) hlast)

/-- If there is something where the parts lead, then there is something at the last part itself. -/
theorem Leads.itself (h : fs.Leads true links steps source parts target)
    (htarget : (fs.at? target).isSome = true) :
    ∃ place, fs.Leads false links steps source parts place ∧ (fs.at? place).isSome = true := by
  induction h with
  | arrived loc => exact ⟨loc, .arrived loc, htarget⟩
  | stay hloc hpart _ ih =>
      obtain ⟨place, hplace, hsome⟩ := ih htarget
      exact ⟨place, .stay hloc hpart hplace, hsome⟩
  | up hloc _ ih =>
      obtain ⟨place, hplace, hsome⟩ := ih htarget
      exact ⟨place, .up hloc hplace, hsome⟩
  | enter hloc hpart hplain _ ih =>
      obtain ⟨place, hplace, hsome⟩ := ih htarget
      exact ⟨place, .enter hloc hpart hplain hplace, hsome⟩
  | @follow _ _ source _ part _ rest hloc hpart hlink _ _ ih =>
      cases rest with
      | nil => exact ⟨source ++ [part], .stop hloc hpart hlink rfl, by rw [hlink]; rfl⟩
      | cons next rest =>
          obtain ⟨place, hplace, hsome⟩ := ih htarget
          exact ⟨place, .follow hloc hpart hlink (.inl (List.cons_ne_nil _ _)) hplace, hsome⟩
  | stop _ _ _ hlast => cases hlast

end

/-! ## Paths -/

section

variable {last : Bool} {loc : Location} {path : Raw}

/-- The path is one that may lead somewhere. -/
def IsPath (path : Raw) : Prop :=
  ¬ (path = [] ∨ path.contains '\x00') ∧ ¬ pathLimit < path.length

theorem resolve_eq_ok_iff : fs.resolve last path = .ok loc ↔
    IsPath path ∧ fs.Leads last linkLimit stepLimit (fs.start path) (Path.split path) loc := by
  unfold resolve IsPath
  constructor
  · intro h
    split at h
    · cases h
    · next hsome =>
      split at h
      · cases h
      · next hshort => exact ⟨⟨hsome, hshort⟩, leads_of_walk h⟩
  · rintro ⟨⟨hsome, hshort⟩, h⟩
    rw [if_neg hsome, if_neg hshort]
    exact walk_of_leads h

theorem locate?_eq_some_iff : fs.locate? path = some loc ↔
    IsPath path ∧ fs.Leads true linkLimit stepLimit (fs.start path) (Path.split path) loc := by
  rw [← resolve_eq_ok_iff, locate?]
  cases fs.resolve true path <;> simp [Except.toOption]

theorem place?_eq_some_iff : fs.place? path = some loc ↔
    IsPath path ∧ fs.Leads false linkLimit stepLimit (fs.start path) (Path.split path) loc := by
  rw [← resolve_eq_ok_iff, place?]
  cases fs.resolve false path <;> simp [Except.toOption]

theorem entry_eq (fs : FileSystem) (path : Raw) :
    fs.entry? path = (fs.locate? path).bind fs.at? := rfl

/-- Where there is not even a link, there is nothing to be got at. -/
theorem entry_of_itself (h : fs.entryItself? path = none) : fs.entry? path = none := by
  cases hlocate : fs.locate? path with
  | none => rw [entry_eq, hlocate]; rfl
  | some loc =>
      obtain ⟨hpath, hleads⟩ := locate?_eq_some_iff.mp hlocate
      rw [entry_eq, hlocate]
      cases hfound : fs.at? loc with
      | none => exact hfound
      | some e =>
          obtain ⟨place, hplace, hsome⟩ := hleads.itself (by rw [hfound]; rfl)
          rw [entryItself?, place?_eq_some_iff.mpr ⟨hpath, hplace⟩, Option.bind_some] at h
          rw [h] at hsome
          cases hsome

/-! ## The same tree -/

/-- There are the same things at the same locations, whatever they hold. -/
structure SameTree (fs gs : FileSystem) : Prop where
  at? : ∀ loc, gs.at? loc = fs.at? loc
  working : gs.working = fs.working

theorem SameTree.refl (fs : FileSystem) : SameTree fs fs :=
  ⟨fun _ => rfl, rfl⟩

theorem SameTree.trans {hs : FileSystem} (h : SameTree fs gs) (h' : SameTree gs hs) :
    SameTree fs hs :=
  ⟨fun loc => (h'.at? loc).trans (h.at? loc), h'.working.trans h.working⟩

theorem SameTree.resolve (h : SameTree fs gs) : gs.resolve last path = fs.resolve last path := by
  simp only [FileSystem.resolve, start, h.working, walk_congr h.at?]

theorem SameTree.entry (h : SameTree fs gs) : gs.entry? path = fs.entry? path := by
  rw [entry_eq, entry_eq, locate?, locate?, h.resolve]
  exact congrArg _ (funext h.at?)

theorem SameTree.entryItself (h : SameTree fs gs) :
    gs.entryItself? path = fs.entryItself? path := by
  rw [entryItself?, entryItself?, place?, place?, h.resolve]
  exact congrArg _ (funext h.at?)

theorem SameTree.isFile (h : SameTree fs gs) : gs.isFile path = fs.isFile path := by
  rw [FileSystem.isFile, FileSystem.isFile, h.entry]

/-- Who has a file open does not matter. -/
theorem sameTree_withBusy (fs : FileSystem) (busy : List Nat) : SameTree fs (fs.withBusy busy) :=
  ⟨fun _ => rfl, rfl⟩

theorem holding_eq (fs : FileSystem) (path : Raw) : ∃ busy, fs.holding path = fs.withBusy busy := by
  unfold holding
  split
  · exact ⟨_, rfl⟩
  · exact ⟨fs.busy, rfl⟩

theorem sameTree_holding (fs : FileSystem) (path : Raw) : SameTree fs (fs.holding path) := by
  obtain ⟨busy, hbusy⟩ := holding_eq fs path
  rw [hbusy]
  exact sameTree_withBusy fs busy

theorem read?_holding (fs : FileSystem) (path : Raw) :
    (fs.holding path).read? path = fs.read? path := by
  obtain ⟨busy, hbusy⟩ := holding_eq fs path
  rw [hbusy, read?, (sameTree_withBusy fs busy).entry]
  rfl

/-! ## Writing -/

variable {bytes : Bytes} {number mode : Nat}

theorem sameTree_append (fs : FileSystem) (number : Nat) (bytes : Bytes) :
    SameTree fs (fs.append number bytes) :=
  ⟨fun _ => rfl, rfl⟩

theorem content?_store (fs : FileSystem) (number : Nat) (content : ByteArray) :
    (fs.store number content).content? number = some content.data.toList := by
  rw [store, content?, node?_putNode, Option.map_some]

/-- What is put behind a content is behind it. -/
theorem content?_append {content : Bytes} (h : fs.content? number = some content) :
    (fs.append number bytes).content? number = some (content ++ bytes) := by
  rw [append, content?_store, h, Option.getD_some]

theorem read?_of_content {content : Bytes} (hentry : fs.entry? path = some (.file number))
    (hcontent : fs.content? number = some content) : fs.read? path = some content := by
  rw [read?, hentry]
  exact hcontent

theorem at?_create (fs : FileSystem) (hloc : loc ≠ []) (mode : Nat) (content : ByteArray)
    (other : Location) :
    (fs.create loc mode content).at? other =
      if other = loc then some (.file fs.next) else fs.at? other :=
  at?_putAt hloc (.file fs.next) other

theorem content?_create (fs : FileSystem) (loc : Location) (mode : Nat) (content : ByteArray) :
    (fs.create loc mode content).content? fs.next = some content.data.toList := by
  have hnode : (fs.create loc mode content).node? fs.next = some ⟨content, mode, fs.stamp⟩ :=
    node?_putNode fs.next _
  rw [content?, hnode, Option.map_some]

/-- A path leads on to where it led when a file is made there. -/
theorem entry_create (hlocate : fs.locate? path = some loc) (hend : fs.IsEnd loc) (mode : Nat)
    (content : ByteArray) :
    entry? (fs.create loc mode content) path = some (.file fs.next) := by
  have hmade := at?_create fs hend.ne_nil mode content
  have hthere : (fs.create loc mode content).at? loc = some (.file fs.next) := by
    rw [hmade, if_pos rfl]
  obtain ⟨hpath, hleads⟩ := locate?_eq_some_iff.mp hlocate
  have hstart : (fs.create loc mode content).start path = fs.start path := by
    unfold start create putNode
    rw [working_putAt]
  have hnew : (fs.create loc mode content).locate? path = some loc := by
    rw [locate?_eq_some_iff, hstart]
    exact ⟨hpath, hleads.of_end hend (IsEnd.of_file hthere).not_link
      fun other hother => by rw [hmade, if_neg hother]⟩
  rw [entry_eq, hnew, Option.bind_some, hthere]

/-! ## Opening -/

/-- What is open is at the path. A file has nothing in it, and for a device nothing was done. -/
inductive Opens (fs : FileSystem) (path : Raw) : Target → FileSystem → Prop
  | file {number : Nat} {opened : FileSystem} (hentry : opened.entry? path = some (.file number))
      (hcontent : opened.content? number = some []) : Opens fs path (.file number) opened
  | device {device : Device} (hentry : fs.entry? path = some (.device device)) :
      Opens fs path (.device device) fs

variable {target : Target} {opened : FileSystem}

theorem opens_of_open? (h : fs.open? path mode = some (target, opened)) :
    Opens fs path target opened := by
  unfold open? at h
  cases hlocate : fs.locate? path with
  | none => rw [hlocate] at h; cases h
  | some loc =>
      have hentry : fs.entry? path = fs.at? loc := by rw [entry_eq, hlocate, Option.bind_some]
      simp only [hlocate] at h
      cases hfound : fs.at? loc with
      | none =>
          simp only [hfound] at h
          cases h
          exact .file (entry_create hlocate (.of_none hfound) _ _) (content?_create ..)
      | some e =>
          rw [hfound] at hentry
          simp only [hfound] at h
          cases e with
          | file number =>
              cases h
              refine .file ?_ (content?_store ..)
              rw [← hentry]
              exact SameTree.entry ⟨fun _ => rfl, rfl⟩
          | program name =>
              cases h
              have hend : fs.IsEnd loc := ⟨by rw [hfound]; nofun, by rw [hfound]; nofun⟩
              exact .file (entry_create hlocate hend _ _) (content?_create ..)
          | device device => cases h; exact .device hentry
          | directory | fifo number | link dest => cases h

/-- Where there was nothing, a file is made. -/
theorem open?_of_missing (h : fs.open? path mode = some (target, opened))
    (hnone : fs.entry? path = none) :
    ∃ loc, fs.locate? path = some loc ∧ fs.at? loc = none ∧ target = .file fs.next ∧
      opened = fs.create loc mode ⟨#[]⟩ := by
  unfold open? at h
  cases hlocate : fs.locate? path with
  | none => rw [hlocate] at h; cases h
  | some loc =>
      rw [entry_eq, hlocate, Option.bind_some] at hnone
      simp only [hlocate, hnone] at h
      cases h
      exact ⟨loc, rfl, hnone, rfl, rfl⟩

/-- What was made is no directory. -/
theorem entryItself?_open? (h : fs.open? path mode = some (target, opened))
    (hnone : fs.entryItself? path = none) : opened.entryItself? path ≠ some .directory := by
  intro hdirectory
  obtain ⟨loc, -, hloc, -, rfl⟩ := open?_of_missing h (entry_of_itself hnone)
  have hmade := at?_create fs (IsEnd.of_none hloc).ne_nil mode ⟨#[]⟩
  have hagree : ∀ other, other ≠ loc →
      (fs.create loc mode ⟨#[]⟩).at? other = fs.at? other :=
    fun other hother => by rw [hmade, if_neg hother]
  have hthere : (fs.create loc mode ⟨#[]⟩).at? loc = some (.file fs.next) := by
    rw [hmade, if_pos rfl]
  obtain ⟨place, hplace, hfound⟩ := Option.bind_eq_some_iff.mp hdirectory
  obtain ⟨hpath, hleads⟩ := place?_eq_some_iff.mp hplace
  have hstart : (fs.create loc mode ⟨#[]⟩).start path = fs.start path := by
    unfold start create putNode
    rw [working_putAt]
  rw [hstart] at hleads
  rcases hleads.before_end (.of_file hthere) hagree with rfl | hbefore
  · cases hthere.symm.trans hfound
  · have hne : place ≠ loc := by
      rintro rfl
      cases hthere.symm.trans hfound
    rw [entryItself?, place?_eq_some_iff.mpr ⟨hpath, hbefore⟩, Option.bind_some, ← hagree _ hne,
      hfound] at hnone
    cases hnone

/-! ## Taking away -/

/-- What is no directory is gone, and nothing is left at the path. -/
theorem entryItself?_erase (h : fs.entryItself? path ≠ some .directory) :
    (fs.erase path).entryItself? path = none := by
  unfold erase
  cases hplace : fs.place? path with
  | none =>
      dsimp only
      rw [entryItself?, hplace]
      rfl
  | some loc =>
      rw [entryItself?, hplace, Option.bind_some] at h
      have hloc : loc ≠ [] := by
        rintro rfl
        exact h rfl
      have hfile : fs.isDirectoryAt loc = false := by simpa [isDirectoryAt] using h
      have hgone := at?_eraseAt fs hloc
      have hnone : (fs.eraseAt loc).at? loc = none := by rw [hgone, if_pos rfl]
      have hagree : ∀ other, other ≠ loc → (fs.eraseAt loc).at? other = fs.at? other :=
        fun other hother => by rw [hgone, if_neg hother]
      simp only [hfile, if_false, Bool.false_eq_true]
      cases hnew : (fs.eraseAt loc).place? path with
      | none => rw [entryItself?, hnew]; rfl
      | some target =>
          obtain ⟨hpath, hleads⟩ := place?_eq_some_iff.mp hnew
          have htarget : target = loc := by
            rcases hleads.before_end (.of_none hnone) hagree with hsame | hbefore
            · exact hsame
            · have hplace' : fs.place? path = some target :=
                place?_eq_some_iff.mpr ⟨hpath, hbefore⟩
              exact Option.some.inj (hplace'.symm.trans hplace)
          rw [entryItself?, hnew, Option.bind_some, htarget, hnone]

end

/-! ## Temporary files -/

theorem isTag_tag {n : Nat} (hn : n < tagLimit) : IsTag (tag n) := by
  have hmillion : n < 10 ^ 6 := hn.trans (by decide)
  refine ⟨Decimal.length_padded hmillion (by decide), fun c hc => ?_⟩
  rw [Char.isAlphanum, Decimal.isDigit_padded c hc, Bool.or_true]

/-- The first tag that makes a new path makes one in the directory. -/
theorem temporaries_laws : FileSystem.temporaries.Laws where
  named := by
    intro files before after path h
    obtain ⟨n, hn, rfl⟩ := List.mem_map.mp (List.mem_of_find?_eq_some h)
    have hlimit : n < tagLimit := (List.mem_range.mp hn).trans_le (Nat.min_le_left ..)
    exact ⟨tag n, isTag_tag hlimit, rfl⟩
  missing := by
    intro files before after path h
    simpa using List.find?_some h

end SmtScript.Host.FileSystem
