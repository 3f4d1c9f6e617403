import SmtScript.Solver.Config
import Mathlib.Algebra.Group.Nat.Defs

/-!
# Configurations survive being written

A configuration has one way to be written and many to be read: as an object in any order, with
fields that do not matter and without those that may be absent, or as an array, and its timeout
likewise, with more nanoseconds than a second has. All ways of writing the same values are read as
the same configuration, and what was read is written in the one way that is read as the same again.
-/

namespace SmtScript

namespace Duration

theorem seconds_lt (d : Duration) : d.seconds < secondsLimit := by
  have := d.lt_limit
  exact Nat.div_lt_of_lt_mul (by rwa [Nat.mul_comm] at this)

theorem subsecond_lt (d : Duration) : d.subsecond < perSecond :=
  Nat.mod_lt _ (by decide)

theorem seconds_add_subsecond (d : Duration) :
    d.seconds * perSecond + d.subsecond = d.nanoseconds := by
  rw [Nat.mul_comm]
  exact Nat.div_add_mod ..

theorem ofParts?_eq_some_iff {seconds nanos : Nat} {d : Duration} :
    ofParts? seconds nanos = some d ↔ d.nanoseconds = seconds * perSecond + nanos := by
  unfold ofParts?
  constructor
  · intro h
    split at h
    · cases h
      rfl
    · cases h
  · intro h
    have hlt := d.lt_limit
    rw [h] at hlt
    rw [dif_pos hlt]
    obtain ⟨n, hn⟩ := d
    cases h
    rfl

/-- The carried seconds are too many exactly if the duration is. -/
theorem ofParts?_eq_none_iff {seconds nanos : Nat} :
    ofParts? seconds nanos = none ↔ secondsLimit ≤ seconds + nanos / perSecond := by
  unfold ofParts?
  have hcarry : seconds * perSecond + nanos < secondsLimit * perSecond ↔
      seconds + nanos / perSecond < secondsLimit := by
    unfold perSecond secondsLimit
    omega
  split
  · rename_i h
    simp only [reduceCtorEq, false_iff, Nat.not_le]
    exact hcarry.mp h
  · rename_i h
    simp only [true_iff]
    exact Nat.not_lt.mp (mt hcarry.mpr h)

end Duration

namespace Json

/-! ## Fields -/

theorem field?_cons (name key : String) (value : Json) (fields : List (String × Json)) :
    (obj ((key, value) :: fields)).field? name =
      ((obj fields).field? name).or (if name = key then some value else none) := by
  simp only [field?, List.reverse_cons, List.lookup_append, List.lookup_cons, List.lookup_nil]
  by_cases h : name = key
  · simp [h]
  · rw [if_neg h, beq_eq_false_iff_ne.mpr h]

theorem field?_eq_some_iff_mem {fields : List (String × Json)}
    (hnodup : (fields.map Prod.fst).Nodup) {name : String} {value : Json} :
    (obj fields).field? name = some value ↔ (name, value) ∈ fields := by
  induction fields generalizing value with
  | nil => simp [field?]
  | cons field fields ih =>
      obtain ⟨key, own⟩ := field
      rw [List.map_cons, List.nodup_cons] at hnodup
      rw [field?_cons, List.mem_cons, ← ih hnodup.2]
      by_cases h : name = key
      · -- of several fields with a name the last one counts, and here there is no later one
        subst h
        have hnone : (obj fields).field? name = none := by
          refine Option.eq_none_iff_forall_ne_some.mpr fun other hother => hnodup.1 ?_
          exact List.mem_map.mpr ⟨_, (ih hnodup.2).mp hother, rfl⟩
        simp [hnone, eq_comm]
      · simp [h]

/-- Where no two fields have one name, their order does not matter. -/
theorem field?_of_perm {fields fields' : List (String × Json)} (hperm : fields.Perm fields')
    (hnodup : (fields.map Prod.fst).Nodup) (name : String) :
    (obj fields).field? name = (obj fields').field? name := by
  have hnodup' : (fields'.map Prod.fst).Nodup := (hperm.map Prod.fst).nodup hnodup
  refine Option.ext fun value => ?_
  rw [field?_eq_some_iff_mem hnodup, field?_eq_some_iff_mem hnodup', hperm.mem_iff]

theorem str?_eq_some_iff {v : Json} {s : String} : v.str? = some s ↔ v = .str s := by
  cases v <;> simp [str?]

theorem items?_eq_some_iff {v : Json} {items : List Json} :
    v.items? = some items ↔ v = .arr items := by
  cases v <;> simp [items?]

theorem nat?_eq_some_iff {bound : Nat} {v : Json} {n : Nat} :
    v.nat? bound = some n ↔ v = .integer n ∧ n < bound := by
  unfold nat?
  split
  · rename_i m
    split <;> grind
  · rename_i h
    grind

theorem mapM_str?_eq_some_iff {items : List Json} {texts : List String} :
    items.mapM str? = some texts ↔ items = texts.map .str := by
  induction items generalizing texts with
  | nil => simp [eq_comm]
  | cons item items ih =>
      simp only [List.mapM_cons, Option.bind_eq_bind, Option.bind_eq_some_iff, Option.pure_def,
        Option.some.injEq, str?_eq_some_iff, ih]
      constructor
      · rintro ⟨text, rfl, rest, rfl, rfl⟩
        rfl
      · intro h
        cases texts with
        | nil => cases h
        | cons text rest =>
            obtain ⟨rfl, rfl⟩ := List.cons.inj h
            exact ⟨text, rfl, rest, rfl, rfl⟩

end Json

namespace Solver.Config

/-! ## What is read -/

/-- The value spells these seconds and nanoseconds, as an object or as an array. -/
inductive SpellsDuration : Json → Nat → Nat → Prop
  | array (seconds nanos : Nat) :
      SpellsDuration (.arr [.integer seconds, .integer nanos]) seconds nanos
  | object {fields : List (String × Json)} {seconds nanos : Nat} :
      (∀ field ∈ fields, field.1 = "secs" ∨ field.1 = "nanos") →
      (Json.obj fields).field? "secs" = some (.integer seconds) →
      (Json.obj fields).field? "nanos" = some (.integer nanos) →
      SpellsDuration (.obj fields) seconds nanos

/-- The value gives these four values to a configuration, as an object or as an array. -/
inductive HasValues : Json → Json → Json → Json → Json → Prop
  | array (executable outputFile extraArgs timeout : Json) :
      HasValues (.arr [executable, outputFile, extraArgs, timeout])
        executable outputFile extraArgs timeout
  | object {fields : List (String × Json)} {executable extraArgs : Json} :
      (Json.obj fields).field? "executable" = some executable →
      (Json.obj fields).field? "extra_args" = some extraArgs →
      HasValues (.obj fields) executable (((Json.obj fields).field? "output_file").getD .null)
        extraArgs (((Json.obj fields).field? "timeout").getD .null)

/-- The seconds have 64 bits, the nanoseconds 32, and together they are the duration. -/
def IsDuration (v : Json) (d : Duration) : Prop :=
  ∃ seconds nanos, SpellsDuration v seconds nanos ∧ seconds < Duration.secondsLimit ∧
    nanos < nanosLimit ∧ d.nanoseconds = seconds * Duration.perSecond + nanos

/-- The four values are those of the configuration. -/
structure Says (c : Config) (executable outputFile extraArgs timeout : Json) : Prop where
  executable : executable = .str c.executable
  outputFile : c.outputFile?.elim (outputFile = .null) (outputFile = .str ·)
  extraArgs : extraArgs = .arr (c.extraArgs.map .str)
  timeout : c.timeout?.elim (timeout = .null) (IsDuration timeout)

theorem durationOfJson?_obj {fields : List (String × Json)}
    (hnames : ∀ field ∈ fields, field.1 = "secs" ∨ field.1 = "nanos") :
    durationOfJson? (.obj fields) =
      ((Json.obj fields).field? "secs").bind fun seconds =>
        ((Json.obj fields).field? "nanos").bind fun nanos => durationOfParts? seconds nanos := by
  have hall : fields.all (fun field => field.1 == "secs" || field.1 == "nanos") = true :=
    List.all_eq_true.mpr fun field hfield => by simpa using hnames field hfield
  rw [durationOfJson?, hall]
  rfl

theorem durationOfJson?_obj_eq_none {fields : List (String × Json)}
    (h : ¬∀ field ∈ fields, field.1 = "secs" ∨ field.1 = "nanos") :
    durationOfJson? (.obj fields) = none := by
  have hall : fields.all (fun field => field.1 == "secs" || field.1 == "nanos") = false := by
    rw [Bool.eq_false_iff]
    exact fun hall => h fun field hfield => by simpa using List.all_eq_true.mp hall field hfield
  rw [durationOfJson?, hall]
  rfl

/-- Both ways of spelling a duration are read alike. -/
theorem SpellsDuration.read {v : Json} {seconds nanos : Nat} (h : SpellsDuration v seconds nanos) :
    durationOfJson? v = durationOfParts? (.integer seconds) (.integer nanos) := by
  cases h with
  | array => rfl
  | object hnames hseconds hnanos =>
      rw [durationOfJson?_obj hnames, hseconds, hnanos]
      rfl

theorem durationOfParts?_eq_some_iff {seconds nanos : Json} {d : Duration} :
    durationOfParts? seconds nanos = some d ↔ ∃ m n : Nat, seconds = .integer m ∧
      nanos = .integer n ∧ m < Duration.secondsLimit ∧ n < nanosLimit ∧
      d.nanoseconds = m * Duration.perSecond + n := by
  simp only [durationOfParts?, Option.bind_eq_bind, Option.bind_eq_some_iff, Json.nat?_eq_some_iff,
    Duration.ofParts?_eq_some_iff]
  constructor
  · rintro ⟨m, ⟨rfl, hm⟩, n, ⟨rfl, hn⟩, hd⟩
    exact ⟨m, n, rfl, rfl, hm, hn, hd⟩
  · rintro ⟨m, n, rfl, rfl, hm, hn, hd⟩
    exact ⟨m, ⟨rfl, hm⟩, n, ⟨rfl, hn⟩, hd⟩

theorem durationOfJson?_eq_some_iff {v : Json} {d : Duration} :
    durationOfJson? v = some d ↔ IsDuration v d := by
  constructor
  · intro h
    cases v with
    | arr items =>
        match items, h with
        | [seconds, nanos], h =>
            obtain ⟨m, n, rfl, rfl, hm, hn, hd⟩ := durationOfParts?_eq_some_iff.mp h
            exact ⟨m, n, .array m n, hm, hn, hd⟩
    | obj fields =>
        by_cases hnames : ∀ field ∈ fields, field.1 = "secs" ∨ field.1 = "nanos"
        · simp only [durationOfJson?_obj hnames, Option.bind_eq_some_iff] at h
          obtain ⟨seconds, hseconds, nanos, hnanos, hparts⟩ := h
          obtain ⟨m, n, rfl, rfl, hm, hn, hd⟩ := durationOfParts?_eq_some_iff.mp hparts
          exact ⟨m, n, .object hnames hseconds hnanos, hm, hn, hd⟩
        · rw [durationOfJson?_obj_eq_none hnames] at h
          cases h
    | _ => cases h
  · rintro ⟨m, n, hspells, hm, hn, hd⟩
    rw [hspells.read]
    exact durationOfParts?_eq_some_iff.mpr ⟨m, n, rfl, rfl, hm, hn, hd⟩

/-- An optional value is null, or there is one that is no null. -/
theorem optional?_eq_some_iff {α : Type} {read : Json → Option α} {Spells : Json → α → Prop}
    (hread : ∀ v a, read v = some a ↔ Spells v a) (hnull : read .null = none) {v : Json}
    {a? : Option α} : optional? read v = some a? ↔ a?.elim (v = .null) (Spells v) := by
  by_cases hv : v = .null
  · -- null is no value of any kind, so that it cannot be meant as one
    subst hv
    cases a? with
    | none => simp [optional?]
    | some a =>
        have : ¬Spells .null a := by
          rw [← hread, hnull]
          exact nofun
        simp [optional?, this]
  · have hvalue : optional? read v = (read v).map some := by
      cases v with
      | null => exact absurd rfl hv
      | _ => rfl
    cases a? with
    | none => simp [hvalue, hv]
    | some a => simp [hvalue, hread]

theorem ofValues?_eq_some_iff {executable outputFile extraArgs timeout : Json} {c : Config} :
    ofValues? executable outputFile extraArgs timeout = some c ↔
      c.Says executable outputFile extraArgs timeout := by
  have houtput : ∀ path?, optional? Json.str? outputFile = some path? ↔
      path?.elim (outputFile = .null) (outputFile = .str ·) := fun _ =>
    optional?_eq_some_iff (fun _ _ => Json.str?_eq_some_iff) rfl
  have htimeout : ∀ timeout?, optional? durationOfJson? timeout = some timeout? ↔
      timeout?.elim (timeout = .null) (IsDuration timeout) := fun _ =>
    optional?_eq_some_iff (fun _ _ => durationOfJson?_eq_some_iff) rfl
  simp only [ofValues?, Option.bind_eq_bind, Option.bind_eq_some_iff, Option.pure_def,
    Option.some.injEq, Json.str?_eq_some_iff, Json.items?_eq_some_iff, Json.mapM_str?_eq_some_iff,
    houtput, htimeout]
  constructor
  · rintro ⟨_, rfl, path?, hpath, items, rfl, args, rfl, timeout?, htimeout, rfl⟩
    exact ⟨rfl, hpath, rfl, htimeout⟩
  · rintro ⟨rfl, hpath, rfl, htimeout⟩
    exact ⟨_, rfl, _, hpath, _, rfl, _, rfl, _, htimeout, rfl⟩

theorem HasValues.read {v executable outputFile extraArgs timeout : Json}
    (h : HasValues v executable outputFile extraArgs timeout) :
    ofJson? v = ofValues? executable outputFile extraArgs timeout := by
  cases h with
  | array => rfl
  | object hexecutable hargs => simp [ofJson?, hexecutable, hargs]

theorem exists_hasValues {v : Json} {c : Config} (h : ofJson? v = some c) :
    ∃ executable outputFile extraArgs timeout,
      HasValues v executable outputFile extraArgs timeout := by
  cases v with
  | arr items =>
      match items, h with
      | [executable, outputFile, extraArgs, timeout], _ => exact ⟨_, _, _, _, .array ..⟩
  | obj fields =>
      simp only [ofJson?, Option.bind_eq_bind, Option.bind_eq_some_iff] at h
      obtain ⟨executable, hexecutable, extraArgs, hargs, -⟩ := h
      exact ⟨_, _, _, _, .object hexecutable hargs⟩
  | _ => cases h

/-- A configuration is read from just those values that say what it is. -/
theorem ofJson?_eq_some_iff {v : Json} {c : Config} : ofJson? v = some c ↔
    ∃ executable outputFile extraArgs timeout,
      HasValues v executable outputFile extraArgs timeout ∧
        c.Says executable outputFile extraArgs timeout := by
  constructor
  · intro h
    obtain ⟨executable, outputFile, extraArgs, timeout, hvalues⟩ := exists_hasValues h
    rw [hvalues.read] at h
    exact ⟨_, _, _, _, hvalues, ofValues?_eq_some_iff.mp h⟩
  · rintro ⟨_, _, _, _, hvalues, hsays⟩
    rw [hvalues.read]
    exact ofValues?_eq_some_iff.mpr hsays

/-! ## What is written -/

theorem isDuration_durationToJson (d : Duration) : IsDuration (durationToJson d) d := by
  have hnanos : d.subsecond < nanosLimit := Nat.lt_trans d.subsecond_lt (by decide)
  refine ⟨d.seconds, d.subsecond, .object ?_ rfl rfl, d.seconds_lt, hnanos,
    d.seconds_add_subsecond.symm⟩
  simp

theorem ofJson?_toJson (c : Config) : ofJson? c.toJson = some c := by
  obtain ⟨executable, outputFile?, extraArgs, timeout?⟩ := c
  rw [ofJson?_eq_some_iff]
  refine ⟨_, _, _, _, .object rfl rfl, rfl, ?_, rfl, ?_⟩
  · cases outputFile? with
    | none => rfl
    | some path => rfl
  · cases timeout? with
    | none => rfl
    | some d => exact isDuration_durationToJson d

/-! ## Ways of writing -/

/-- The names of the fields that matter. -/
def fieldNames : List String :=
  ["executable", "output_file", "extra_args", "timeout"]

theorem ofJson?_congr {fields fields' : List (String × Json)}
    (h : ∀ name ∈ fieldNames,
      (Json.obj fields).field? name = (Json.obj fields').field? name) :
    ofJson? (.obj fields) = ofJson? (.obj fields') := by
  simp only [ofJson?, h "executable" (by decide), h "output_file" (by decide),
    h "extra_args" (by decide), h "timeout" (by decide)]

theorem ofJson?_cons_of_not_mem {name : String} (h : name ∉ fieldNames) (value : Json)
    (fields : List (String × Json)) :
    ofJson? (.obj ((name, value) :: fields)) = ofJson? (.obj fields) := by
  refine ofJson?_congr fun other hother => ?_
  have hne : other ≠ name := by
    rintro rfl
    exact h hother
  rw [Json.field?_cons, if_neg hne, Option.or_none]

theorem ofJson?_cons_null {name : String} (h : name = "output_file" ∨ name = "timeout")
    (fields : List (String × Json)) :
    ofJson? (.obj ((name, .null) :: fields)) = ofJson? (.obj fields) := by
  rcases h with rfl | rfl
  · simp [ofJson?, Json.field?_cons]
  · simp [ofJson?, Json.field?_cons]

theorem SpellsDuration.eq_none_iff {v : Json} {seconds nanos : Nat}
    (h : SpellsDuration v seconds nanos) (hseconds : seconds < Duration.secondsLimit)
    (hnanos : nanos < nanosLimit) : durationOfJson? v = none ↔
      Duration.secondsLimit ≤ seconds + nanos / Duration.perSecond := by
  have hsecondsRead : (Json.integer seconds).nat? Duration.secondsLimit = some seconds :=
    Json.nat?_eq_some_iff.mpr ⟨rfl, hseconds⟩
  have hnanosRead : (Json.integer nanos).nat? nanosLimit = some nanos :=
    Json.nat?_eq_some_iff.mpr ⟨rfl, hnanos⟩
  rw [h.read, durationOfParts?, hsecondsRead, hnanosRead, Option.bind_eq_bind, Option.bind_some,
    Option.bind_some, Duration.ofParts?_eq_none_iff]

theorem HasValues.read_eq {v v' executable outputFile extraArgs timeout timeout' : Json}
    (h : HasValues v executable outputFile extraArgs timeout)
    (h' : HasValues v' executable outputFile extraArgs timeout')
    (htimeout : optional? durationOfJson? timeout = optional? durationOfJson? timeout') :
    ofJson? v = ofJson? v' := by
  rw [h.read, h'.read, ofValues?, ofValues?, htimeout]

theorem SpellsDuration.optional?_eq {v v' : Json} {seconds nanos : Nat}
    (h : SpellsDuration v seconds nanos) (h' : SpellsDuration v' seconds nanos) :
    optional? durationOfJson? v = optional? durationOfJson? v' := by
  have hsome : ∀ {w : Json}, SpellsDuration w seconds nanos →
      optional? durationOfJson? w = (durationOfJson? w).map some := by
    intro w hw
    cases hw <;> rfl
  rw [hsome h, hsome h', h.read, h'.read]

/-- **Configurations survive being written.** What was written is read as the same configuration.
A configuration is read from just the values that say what it is, so its timeout is exact, and
normal even where the nanoseconds were more than a second. A duration is rejected only if it is too
long. It does not matter whether the values or the parts of the timeout stand in an object or in an
array, in what order an object has its fields, whether it has others, and whether an optional one is
null or absent. -/
theorem survives_json :
    (∀ c : Config, ofJson? c.toJson = some c) ∧
    (∀ v c, ofJson? v = some c ↔ ∃ executable outputFile extraArgs timeout,
      HasValues v executable outputFile extraArgs timeout ∧
        c.Says executable outputFile extraArgs timeout) ∧
    (∀ v c d, ofJson? v = some c → c.timeout? = some d →
      d.seconds < 2 ^ 64 ∧ d.subsecond < 10 ^ 9 ∧
        ∃ executable outputFile extraArgs timeout seconds nanos,
          HasValues v executable outputFile extraArgs timeout ∧
          SpellsDuration timeout seconds nanos ∧
          d.seconds * 10 ^ 9 + d.subsecond = seconds * 10 ^ 9 + nanos) ∧
    (∀ v seconds nanos, SpellsDuration v seconds nanos → seconds < 2 ^ 64 → nanos < 2 ^ 32 →
      (durationOfJson? v = none ↔ 2 ^ 64 ≤ seconds + nanos / 10 ^ 9)) ∧
    (∀ v v' executable outputFile extraArgs timeout timeout',
      HasValues v executable outputFile extraArgs timeout →
      HasValues v' executable outputFile extraArgs timeout' →
      (timeout = timeout' ∨
        ∃ seconds nanos, SpellsDuration timeout seconds nanos ∧
          SpellsDuration timeout' seconds nanos) →
      ofJson? v = ofJson? v') ∧
    (∀ fields fields' : List (String × Json), fields.Perm fields' →
      (fields.map Prod.fst).Nodup → ofJson? (.obj fields) = ofJson? (.obj fields')) ∧
    (∀ name value fields, name ∉ fieldNames →
      ofJson? (.obj ((name, value) :: fields)) = ofJson? (.obj fields)) ∧
    ∀ name fields, name = "output_file" ∨ name = "timeout" →
      ofJson? (.obj ((name, .null) :: fields)) = ofJson? (.obj fields) := by
  refine ⟨ofJson?_toJson, fun _ _ => ofJson?_eq_some_iff, ?_, fun _ _ _ => ?_, ?_, ?_, ?_, ?_⟩
  · intro v c d hread htimeout
    obtain ⟨executable, outputFile, extraArgs, timeout, hvalues, hsays⟩ :=
      ofJson?_eq_some_iff.mp hread
    have hduration := hsays.timeout
    rw [htimeout] at hduration
    obtain ⟨seconds, nanos, hspells, -, -, hd⟩ := hduration
    refine ⟨d.seconds_lt, d.subsecond_lt, _, _, _, _, seconds, nanos, hvalues, hspells, ?_⟩
    rw [← d.seconds_add_subsecond] at hd
    exact hd
  · exact SpellsDuration.eq_none_iff
  · rintro v v' executable outputFile extraArgs timeout timeout' h h' (rfl | hspells)
    · exact h.read_eq h' rfl
    · obtain ⟨seconds, nanos, hspells, hspells'⟩ := hspells
      exact h.read_eq h' (hspells.optional?_eq hspells')
  · intro fields fields' hperm hnodup
    exact ofJson?_congr fun name _ => Json.field?_of_perm hperm hnodup name
  · intro name value fields hname
    exact ofJson?_cons_of_not_mem hname value fields
  · intro name fields hname
    exact ofJson?_cons_null hname fields

/-- The timeout is an array, and its nanoseconds are two seconds and a half. -/
def carried : Json :=
  .obj [("timeout", .arr [.integer 1, .integer 2500000000]), ("executable", .str "z3"),
    ("threads", .integer 4), ("extra_args", .arr [.str "-in"])]

theorem survives_json_carried :
    ofJson? carried = some ⟨"z3", none, ["-in"], some ⟨3500000000, by decide⟩⟩ := by
  obtain ⟨-, hread, -⟩ := survives_json
  rw [hread]
  exact ⟨_, _, _, _, .object rfl rfl, rfl, rfl, rfl, 1, 2500000000, .array .., by decide,
    by decide, rfl⟩

end Solver.Config

end SmtScript
