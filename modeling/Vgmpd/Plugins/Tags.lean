/-
# The tag sections of the PSF-family files

`psf_load` reads a file's tag section and hands each `name=value` pair, in file order, to the
plugin's info callback.  Each plugin keeps some values and passes others to the scan's
`TagHandler`.  The model runs a callback over the pairs as a fold.  A field that one class of
names drives ends as a fold over that class's values (`foldl_field`).  Two policies occur:
the last value wins (`keepLast`), or the first non-zero one (`keepFirstNonzero`).  Both are
idempotent, so running a callback twice over one section changes nothing.

* aopsf (`Aopsf_Info`) keeps the first non-zero `length` and `fade` and the last value of each
  string (`aopsfInfoAll_lengthMs`, `aopsfInfoAll_strings`).  Its decode runs `psf_load` a
  second time over the same section, into the same context; that pass changes none of the tags
  (`aopsfInfoAll_twice`).  So the duration the scan reports is the one the decode announces.
* lazygsf (`GsfInfo`) and lazyusf (`LazyUSF_TagHandler`) keep the last `length` and `fade`
  (`gsfInfoAll_lengthMs`, `usfInfoAll_lengthMs`).  For one tag section aopsf and lazygsf can
  therefore disagree on the length.
* lazygsf emits the six tags it knows as the pairs arrive, each only when useful
  (`gsfInfoAll_useful`).  lazyusf hands every pair to `OnPair` as it is
  (`usfInfoAll_pairs`), with no usefulness test.
* `emitTagsOf` is the `EmitTags` of aopsf and upse.  It emits useful values only
  (`emitTagsOf_useful`), and the artist tag once, falling back to the game
  (`emitTagsOf_artist`).

A C string is modelled by its characters.  `psf_load` hands the callbacks non-null strings.
-/
import Vgmpd.Plugins.Duration
import Vgmpd.DecoderList.Config

namespace Vgmpd

/-! ## 1. Tag handlers -/

/-- The tag types the plugins emit: `TAG_TITLE`, `TAG_ARTIST`, `TAG_ALBUM`, `TAG_DATE`,
`TAG_GENRE`, `TAG_COMMENT`, `TAG_TRACK`. -/
inductive TagType where
  | title
  | artist
  | album
  | date
  | genre
  | comment
  | track
deriving DecidableEq, Repr

/-- A `TagHandler` as a scanner sees it: its answers to `WantDuration()`, `WantTag()` and
`WantPair()`. -/
structure TagHandler where
  wantDuration : Bool
  wantTag : Bool
  wantPair : Bool
deriving DecidableEq, Repr

/-- A scanner's calls into its `TagHandler`, and the warnings it logs. -/
inductive TagEvent where
  /-- `OnDuration(SongTime::FromMS(ms))`. -/
  | duration (ms : UInt32)
  /-- `OnTag(type, value)`. -/
  | tag (type : TagType) (value : List Char)
  /-- `OnPair(key, value)`. -/
  | pair (key : String) (value : List Char)
  /-- `LogWarning(domain, text)`. -/
  | warning (text : String)
deriving DecidableEq, Repr

/-- The value an `OnTag` or `OnPair` hands the handler. -/
def TagEvent.value : TagEvent → Option (List Char)
  | .tag _ v => some v
  | .pair _ v => some v
  | _ => none

/-- The value of an `OnTag` of type `t`. -/
def TagEvent.tagValue (t : TagType) : TagEvent → Option (List Char)
  | .tag t' v => if t' = t then some v else none
  | _ => none

/-- The key and value of an `OnPair`. -/
def TagEvent.pairOf : TagEvent → Option (String × List Char)
  | .pair k v => some (k, v)
  | _ => none

/-- The duration of an `OnDuration`. -/
def TagEvent.durationMs : TagEvent → Option UInt32
  | .duration ms => some ms
  | _ => none

/-! ## 2. Names, values and usefulness -/

/-- `StringIsEqualIgnoreCase` of MPD's `util/StringCompare`, which is not among the sources:
equality after `ToLowerASCII`, as `strncasecmp` compares in the "C" locale. -/
def stringIsEqualIgnoreCase (a b : List Char) : Bool :=
  a.map toLowerASCII = b.map toLowerASCII

/-- A name matches at most one of two names that differ ignoring case. -/
theorem stringIsEqualIgnoreCase_unique {n a b : List Char}
    (ha : stringIsEqualIgnoreCase n a) (hb : stringIsEqualIgnoreCase n b) :
    a.map toLowerASCII = b.map toLowerASCII := by
  simp only [stringIsEqualIgnoreCase, decide_eq_true_eq] at ha hb
  rw [← ha, hb]

/-- `IsUsefulTag` and `IsUsefulUpseTag` on a present value: not empty, not `"n/a"` in any
case, and not `"-"`. -/
def isUsefulValue (v : List Char) : Bool :=
  !v.isEmpty && !stringIsEqualIgnoreCase v "n/a".toList && v != "-".toList

/-- `IsUsefulTag` of lazygsf and `IsUsefulUpseTag` of upse, on a `const char *` (`nullptr`
as `none`). -/
def isUsefulTagPtr : Option (List Char) → Bool
  | some v => isUsefulValue v
  | none => false

/-- `IsUsefulTag` of aopsf, on a `std::string_view`. -/
def Aopsf.isUsefulTag (value : List Char) : Bool := isUsefulValue value

/-- `IsUsefulTag` of lazygsf, on a `const char *`. -/
def Lazygsf.isUsefulTag (value : Option (List Char)) : Bool := isUsefulTagPtr value

/-- A tag string as the list of it when it is useful, else `[]`. -/
def usefulValue : Option (List Char) → List (List Char)
  | some v => if isUsefulValue v then [v] else []
  | none => []

theorem mem_usefulValue {v : List Char} {value : Option (List Char)}
    (h : v ∈ usefulValue value) : value = some v ∧ isUsefulValue v := by
  cases value with
  | none => cases h
  | some w =>
    by_cases hu : isUsefulValue w
    · simp only [usefulValue, hu, if_true, List.mem_singleton] at h
      subst h
      exact ⟨rfl, hu⟩
    · simp [usefulValue, hu] at h

theorem usefulValue_eq {value : Option (List Char)} :
    usefulValue value = if isUsefulTagPtr value then value.toList else [] := by
  cases value <;> simp [usefulValue, isUsefulTagPtr]

theorem mem_of_mem_ite {α : Type} {c : Prop} [Decidable c] {a b : List α} {x : α}
    (h : x ∈ (if c then a else b)) : x ∈ a ∨ x ∈ b := by
  split at h
  · exact .inl h
  · exact .inr h

/-- The values of the pairs whose name `isKey` accepts, in file order. -/
def valuesWhere (isKey : List Char → Bool) (pairs : List (List Char × List Char)) :
    List (List Char) :=
  (pairs.filter fun p => isKey p.1).map Prod.snd

/-- **A field that one class of names drives.**  If every step changes the field only for a
name that `isKey` accepts, and then by `upd`, a run over a tag section folds `upd` over the values
of those names. -/
theorem foldl_field {σ α : Type} (step : σ → List Char × List Char → σ) (get : σ → α)
    (isKey : List Char → Bool) (upd : α → List Char → α)
    (h : ∀ s p, get (step s p) = if isKey p.1 then upd (get s) p.2 else get s) :
    ∀ (pairs : List (List Char × List Char)) s,
      get (pairs.foldl step s) = (valuesWhere isKey pairs).foldl upd (get s) := by
  intro pairs
  induction pairs with
  | nil => intro s; rfl
  | cons p ps ih =>
    intro s
    rw [List.foldl_cons, ih, h]
    by_cases hp : isKey p.1 <;> simp [valuesWhere, List.filter_cons, hp]

/-- **What every step appends, a run has.**  If each step only appends events with `P`, every
event of a run from events with `P` has `P`. -/
theorem forall_mem_foldl_events {σ : Type}
    (step : σ × List TagEvent → List Char × List Char → σ × List TagEvent)
    (P : TagEvent → Prop)
    (h : ∀ s p, ∃ new, (step s p).2 = s.2 ++ new ∧ ∀ e ∈ new, P e) :
    ∀ (pairs : List (List Char × List Char)) s, (∀ e ∈ s.2, P e) →
      ∀ e ∈ (pairs.foldl step s).2, P e := by
  intro pairs
  induction pairs with
  | nil => intro s hs; exact hs
  | cons p ps ih =>
    intro s hs
    obtain ⟨new, hnew, hP⟩ := h s p
    exact ih _ (by rw [hnew]; exact List.forall_mem_append.mpr ⟨hs, hP⟩)

/-- `x = Parse(value)`: the last value wins. -/
def keepLast {α : Type} (parse : List Char → α) (_ : α) (v : List Char) : α := parse v

/-- `if (x == 0) x = Parse(value)`: the first non-zero value wins. -/
def keepFirstNonzero (parse : List Char → UInt32) (x : UInt32) (v : List Char) : UInt32 :=
  if x = 0 then parse v else x

theorem foldl_keepLast {α : Type} (parse : List Char → α) :
    ∀ (l : List (List Char)) (x : α), l.foldl (keepLast parse) x = (l.map parse).getLast?.getD x
  | [], _ => rfl
  | v :: vs, _ => by
    rw [List.foldl_cons, foldl_keepLast parse vs, List.map_cons, keepLast]
    simp [List.getLast?_cons]

theorem foldl_keepFirstNonzero (parse : List Char → UInt32) :
    ∀ (l : List (List Char)) (x : UInt32), l.foldl (keepFirstNonzero parse) x =
      if x = 0 then ((l.map parse).find? (· ≠ 0)).getD 0 else x
  | [], x => by by_cases hx : x = 0 <;> simp [hx]
  | v :: vs, x => by
    rw [List.foldl_cons, foldl_keepFirstNonzero parse vs]
    by_cases hx : x = 0 <;> by_cases hv : parse v = 0 <;>
      simp [keepFirstNonzero, hx, hv, List.find?_cons]

/-- The event hands the handler no value that is not useful. -/
def UsefulEvent (e : TagEvent) : Prop :=
  ∀ v, e.value = some v → isUsefulValue v

/-- `EmitTag` of aopsf and `UpseEmitTag` of upse: a useful value goes to `OnPair(key, value)`
and `OnTag(type, value)`, each when the handler wants it. -/
def emitUsefulTag (handler : TagHandler) (key : String) (type : TagType)
    (value : Option (List Char)) : List TagEvent :=
  (usefulValue value).flatMap fun v =>
    (if handler.wantPair then [.pair key v] else []) ++
      (if handler.wantTag then [.tag type v] else [])

/-- `EmitTags` of aopsf and `UpseEmitTags` of upse: the plugin's tags in its order, the
`psfby` and `copyright` pairs, and the game as the artist when there is no useful artist. -/
def emitTagsOf (handler : TagHandler) (tags : List (String × TagType × Option (List Char)))
    (artist game psfby copyright : Option (List Char)) : List TagEvent :=
  tags.flatMap (fun t => emitUsefulTag handler t.1 t.2.1 t.2.2) ++
    (if handler.wantPair then
      (usefulValue psfby).map (.pair "psfby") ++ (usefulValue copyright).map (.pair "copyright")
    else []) ++
    (if !isUsefulTagPtr artist && isUsefulTagPtr game && handler.wantTag then
      (usefulValue game).map (.tag .artist)
    else [])

theorem mem_emitUsefulTag {handler : TagHandler} {key : String} {type : TagType}
    {value : Option (List Char)} {e : TagEvent} (he : e ∈ emitUsefulTag handler key type value) :
    ∃ w ∈ usefulValue value, e = .pair key w ∨ e = .tag type w := by
  obtain ⟨w, hw, he⟩ := List.mem_flatMap.mp he
  refine ⟨w, hw, ?_⟩
  split_ifs at he <;> simp_all

theorem usefulEvent_of_mem_map (f : List Char → TagEvent) (hf : ∀ w, (f w).value = some w)
    {value : Option (List Char)} : ∀ e ∈ (usefulValue value).map f, UsefulEvent e := by
  intro e he v hv
  obtain ⟨w, hw, rfl⟩ := List.mem_map.mp he
  rw [hf] at hv
  cases hv
  exact (mem_usefulValue hw).2

theorem emitUsefulTag_useful (handler : TagHandler) (key : String) (type : TagType)
    (value : Option (List Char)) :
    ∀ e ∈ emitUsefulTag handler key type value, UsefulEvent e := by
  intro e he
  obtain ⟨w, hw, rfl | rfl⟩ := mem_emitUsefulTag he <;>
    · intro v hv
      cases hv
      exact (mem_usefulValue hw).2

/-- **`EmitTags` hands the handler useful values only.** -/
theorem emitTagsOf_useful (handler : TagHandler)
    (tags : List (String × TagType × Option (List Char)))
    (artist game psfby copyright : Option (List Char)) :
    ∀ e ∈ emitTagsOf handler tags artist game psfby copyright, UsefulEvent e := by
  simp only [emitTagsOf, List.forall_mem_append]
  refine ⟨⟨fun e he => ?_, ?_⟩, ?_⟩
  · obtain ⟨t, -, he⟩ := List.mem_flatMap.mp he
    exact emitUsefulTag_useful handler _ _ _ e he
  · split_ifs
    · exact List.forall_mem_append.mpr ⟨usefulEvent_of_mem_map (.pair "psfby") (fun _ => rfl),
        usefulEvent_of_mem_map (.pair "copyright") (fun _ => rfl)⟩
    · nofun
  · split_ifs
    · exact usefulEvent_of_mem_map (.tag .artist) (fun _ => rfl)
    · nofun

theorem flatMap_ite_nil {α β : Type} (l : List α) (p : α → Prop) [DecidablePred p]
    (f : α → List β) :
    l.flatMap (fun a => if p a then f a else []) = (l.filter fun a => decide (p a)).flatMap f := by
  induction l with
  | nil => rfl
  | cons a l ih => by_cases h : p a <;> simp [List.filter_cons, h, ih]

theorem filterMap_tagValue_emitUsefulTag (handler : TagHandler) (key : String)
    (type t : TagType) (value : Option (List Char)) :
    (emitUsefulTag handler key type value).filterMap (TagEvent.tagValue t) =
      if handler.wantTag ∧ type = t then usefulValue value else [] := by
  unfold emitUsefulTag
  rw [List.filterMap_flatMap]
  by_cases h : handler.wantTag ∧ type = t
  · rw [if_pos h, h.1, h.2]
    cases handler.wantPair <;> simp [TagEvent.tagValue]
  · rw [if_neg h]
    apply List.flatMap_eq_nil_iff.mpr
    intro v _
    cases hp : handler.wantPair <;> cases ht : handler.wantTag <;>
      simp_all [TagEvent.tagValue]

/-- **`EmitTags` emits the artist tag once, falling back to the game**: for tags whose one
artist entry is `artist`, a handler that wants tags receives the artist when it is useful,
else the game when that is. -/
theorem emitTagsOf_artist (handler : TagHandler)
    (tags : List (String × TagType × Option (List Char)))
    (artist game psfby copyright : Option (List Char))
    (htags : tags.filter (fun t => t.2.1 = .artist) = [("artist", .artist, artist)]) :
    (emitTagsOf handler tags artist game psfby copyright).filterMap (TagEvent.tagValue .artist) =
      if handler.wantTag then
        if isUsefulTagPtr artist then usefulValue artist else usefulValue game
      else [] := by
  have hpair : ∀ key (l : List (List Char)),
      (l.map (TagEvent.pair key)).filterMap (TagEvent.tagValue .artist) = [] := by
    intro key l
    simp [List.filterMap_map, Function.comp_def, TagEvent.tagValue]
  have htag : ∀ l : List (List Char),
      (l.map (TagEvent.tag .artist)).filterMap (TagEvent.tagValue .artist) = l := by
    intro l
    simp [List.filterMap_map, Function.comp_def, TagEvent.tagValue]
  have hlist : (tags.flatMap fun t => emitUsefulTag handler t.1 t.2.1 t.2.2).filterMap
      (TagEvent.tagValue .artist) = if handler.wantTag then usefulValue artist else [] := by
    rw [List.filterMap_flatMap]
    simp only [filterMap_tagValue_emitUsefulTag]
    cases handler.wantTag
    · simp
    · simp only [true_and, if_true]
      rw [flatMap_ite_nil tags (fun t => t.2.1 = .artist) (fun t => usefulValue t.2.2), htags]
      simp
  have hfallback : usefulValue artist ++
      (if (!isUsefulTagPtr artist && isUsefulTagPtr game) = true then usefulValue game else []) =
      if isUsefulTagPtr artist then usefulValue artist else usefulValue game := by
    by_cases ha : isUsefulTagPtr artist <;> by_cases hg : isUsefulTagPtr game <;>
      simp [ha, hg, usefulValue_eq]
  simp only [emitTagsOf, List.filterMap_append, hlist,
    apply_ite (List.filterMap (TagEvent.tagValue .artist)), List.filterMap_nil, hpair, htag,
    List.append_nil]
  rcases handler with ⟨wantDuration, _ | _, _ | _⟩ <;>
    simp only [Bool.and_false, Bool.and_true, Bool.false_eq_true, if_false, if_true,
      List.nil_append, List.append_nil, ite_self, hfallback]

/-! ## 4. aopsf: `Aopsf_Info` -/

/-- The string fields of `AopsfTags`, in the order `Aopsf_Info` tests their names. -/
inductive Aopsf.AopsfTagKey where
  | title
  | artist
  | game
  | year
  | genre
  | comment
  | track
  | psfby
  | copyright
deriving DecidableEq, Repr

/-- The tag name `Aopsf_Info` stores in each string field. -/
def Aopsf.AopsfTagKey.name : Aopsf.AopsfTagKey → String
  | .title => "title"
  | .artist => "artist"
  | .game => "game"
  | .year => "year"
  | .genre => "genre"
  | .comment => "comment"
  | .track => "track"
  | .psfby => "psfby"
  | .copyright => "copyright"

/-- The string fields in `Aopsf_Info`'s order. -/
def Aopsf.aopsfTagKeys : List Aopsf.AopsfTagKey :=
  [.title, .artist, .game, .year, .genre, .comment, .track, .psfby, .copyright]

/-- `AopsfTags`: the two times, as the duration model's `Aopsf.AopsfTags`, and the strings,
empty at first. -/
structure Aopsf.AopsfTagValues where
  times : Aopsf.AopsfTags := {}
  strings : Aopsf.AopsfTagKey → List Char := fun _ => []

/-- `AopsfInfoContext`: the tags, whether `psx` is set, and the `psx_set_refresh` calls made. -/
structure Aopsf.AopsfInfoContext where
  tags : Aopsf.AopsfTagValues := {}
  hasPsx : Bool := false
  refreshes : List Nat := []

/-- The branches of `Aopsf_Info`'s `if` chain. -/
inductive Aopsf.AopsfInfoBranch where
  | length
  | fade
  | string (k : Aopsf.AopsfTagKey)
  | refresh
  | other
deriving DecidableEq, Repr

/-- The branch `Aopsf_Info` takes for a name: its tests, in order, ignoring case. -/
def Aopsf.aopsfInfoBranch (name : List Char) : Aopsf.AopsfInfoBranch :=
  if stringIsEqualIgnoreCase name "length".toList then .length
  else if stringIsEqualIgnoreCase name "fade".toList then .fade
  else match Aopsf.aopsfTagKeys.find? (fun k => stringIsEqualIgnoreCase name k.name.toList) with
    | some k => .string k
    | none => if stringIsEqualIgnoreCase name "_refresh".toList then .refresh else .other

/-- `Aopsf_Info`: one `name=value` pair.  A time is set only while it is `0`; a string is
overwritten; `_refresh` goes to `psx_set_refresh` when `psx` is set and the whole value is a
number. -/
def Aopsf.aopsfInfo (ctx : Aopsf.AopsfInfoContext) (p : List Char × List Char) :
    Aopsf.AopsfInfoContext :=
  match Aopsf.aopsfInfoBranch p.1 with
  | .length =>
    { ctx with
      tags.times.lengthMs := keepFirstNonzero Aopsf.parsePsfTimeMS ctx.tags.times.lengthMs p.2 }
  | .fade =>
    { ctx with
      tags.times.fadeMs := keepFirstNonzero Aopsf.parsePsfTimeMS ctx.tags.times.fadeMs p.2 }
  | .string k => { ctx with tags.strings := Function.update ctx.tags.strings k p.2 }
  | .refresh =>
    if ctx.hasPsx then
      match strtoul p.2 with
      | some (refresh, []) => { ctx with refreshes := ctx.refreshes ++ [refresh] }
      | _ => ctx
    else ctx
  | .other => ctx

/-- A run of `psf_load` over a tag section: `Aopsf_Info` for each pair, in file order. -/
def Aopsf.aopsfInfoAll (ctx : Aopsf.AopsfInfoContext) (pairs : List (List Char × List Char)) :
    Aopsf.AopsfInfoContext :=
  pairs.foldl Aopsf.aopsfInfo ctx

theorem Aopsf.aopsfInfo_refresh_tags (ctx : Aopsf.AopsfInfoContext) (value : List Char) :
    (if ctx.hasPsx then
      match strtoul value with
      | some (refresh, []) => { ctx with refreshes := ctx.refreshes ++ [refresh] }
      | _ => ctx
    else ctx).tags = ctx.tags := by
  split
  · split <;> rfl
  · rfl

theorem Aopsf.aopsfInfoBranch_of_length {name : List Char}
    (h : stringIsEqualIgnoreCase name "length".toList) : Aopsf.aopsfInfoBranch name = .length := by
  rw [aopsfInfoBranch, if_pos h]

/-- The branches after the two times give neither time. -/
theorem Aopsf.aopsfInfoBranch_after_times (name : List Char) :
    (match Aopsf.aopsfTagKeys.find? (fun k => stringIsEqualIgnoreCase name k.name.toList) with
      | some k => Aopsf.AopsfInfoBranch.string k
      | none => if stringIsEqualIgnoreCase name "_refresh".toList then .refresh else .other) ∉
      [.length, .fade] := by
  split
  · simp
  · split <;> simp

theorem Aopsf.aopsfInfoBranch_ne_length {name : List Char}
    (h : stringIsEqualIgnoreCase name "length".toList ≠ true) :
    Aopsf.aopsfInfoBranch name ≠ .length := by
  rw [aopsfInfoBranch, if_neg h]
  split
  · nofun
  · exact fun he => aopsfInfoBranch_after_times name (he ▸ List.mem_cons_self _ _)

theorem Aopsf.aopsfInfo_lengthMs (ctx : Aopsf.AopsfInfoContext) (p : List Char × List Char) :
    (Aopsf.aopsfInfo ctx p).tags.times.lengthMs =
      if stringIsEqualIgnoreCase p.1 "length".toList then
        keepFirstNonzero Aopsf.parsePsfTimeMS ctx.tags.times.lengthMs p.2
      else ctx.tags.times.lengthMs := by
  unfold aopsfInfo
  by_cases h : stringIsEqualIgnoreCase p.1 "length".toList
  · rw [aopsfInfoBranch_of_length h, if_pos h]
  · rw [if_neg h]
    have hb := aopsfInfoBranch_ne_length h
    cases hc : Aopsf.aopsfInfoBranch p.1 with
    | length => exact absurd hc hb
    | refresh => exact congrArg (fun t => t.times.lengthMs) (aopsfInfo_refresh_tags ctx p.2)
    | _ => rfl

theorem Aopsf.aopsfInfo_strings (k : Aopsf.AopsfTagKey) (ctx : Aopsf.AopsfInfoContext)
    (p : List Char × List Char) :
    (Aopsf.aopsfInfo ctx p).tags.strings k =
      if Aopsf.aopsfInfoBranch p.1 = .string k then keepLast id (ctx.tags.strings k) p.2
      else ctx.tags.strings k := by
  unfold aopsfInfo
  cases Aopsf.aopsfInfoBranch p.1 with
  | string k' =>
    by_cases hk : k = k'
    · subst hk
      simp [keepLast]
    · simp [Function.update_noteq hk, Ne.symm hk]
  | _ => simp [aopsfInfo_refresh_tags]

attribute [ext] Aopsf.AopsfTags Aopsf.AopsfTagValues

theorem Aopsf.aopsfInfoAll_lengthMs_fold (ctx : Aopsf.AopsfInfoContext)
    (pairs : List (List Char × List Char)) :
    (Aopsf.aopsfInfoAll ctx pairs).tags.times.lengthMs =
      (valuesWhere (stringIsEqualIgnoreCase · "length".toList) pairs).foldl
        (keepFirstNonzero Aopsf.parsePsfTimeMS) ctx.tags.times.lengthMs :=
  foldl_field _ (fun c => c.tags.times.lengthMs) _ _ Aopsf.aopsfInfo_lengthMs pairs ctx

theorem Aopsf.aopsfInfoAll_strings_fold (k : Aopsf.AopsfTagKey) (ctx : Aopsf.AopsfInfoContext)
    (pairs : List (List Char × List Char)) :
    (Aopsf.aopsfInfoAll ctx pairs).tags.strings k =
      (valuesWhere (fun n => Aopsf.aopsfInfoBranch n = .string k) pairs).foldl
        (keepLast id) (ctx.tags.strings k) :=
  foldl_field _ (fun c => c.tags.strings k) _ _
    (fun c p => by simp only [Aopsf.aopsfInfo_strings, decide_eq_true_eq]) pairs ctx

/-- **aopsf keeps the first non-zero `length`**: from a fresh context, the length is the
first value of a `length` tag (in any case) that parses to non-zero, else `0`.  The fade
likewise. -/
theorem Aopsf.aopsfInfoAll_lengthMs (pairs : List (List Char × List Char)) :
    (Aopsf.aopsfInfoAll {} pairs).tags.times.lengthMs =
      (((valuesWhere (stringIsEqualIgnoreCase · "length".toList) pairs).map
        Aopsf.parsePsfTimeMS).find? (· ≠ 0)).getD 0 := by
  rw [aopsfInfoAll_lengthMs_fold, foldl_keepFirstNonzero]
  rfl

/-- **aopsf keeps the last value of each string.** -/
theorem Aopsf.aopsfInfoAll_strings (k : Aopsf.AopsfTagKey) (pairs : List (List Char × List Char)) :
    (Aopsf.aopsfInfoAll {} pairs).tags.strings k =
      (valuesWhere (fun n => Aopsf.aopsfInfoBranch n = .string k) pairs).getLast?.getD [] := by
  rw [aopsfInfoAll_strings_fold, foldl_keepLast, List.map_id]

/-- `EmitTag` of aopsf, on a `std::string`. -/
def Aopsf.emitTag (handler : TagHandler) (key : String) (type : TagType) (value : List Char) :
    List TagEvent :=
  emitUsefulTag handler key type (some value)

/-- `EmitTags` of aopsf: `emitTagsOf` with its seven tags, `track` among them, on strings
that are never null. -/
def Aopsf.emitTags (handler : TagHandler) (tags : Aopsf.AopsfTagValues) : List TagEvent :=
  emitTagsOf handler
    [("title", .title, some (tags.strings .title)),
      ("artist", .artist, some (tags.strings .artist)),
      ("game", .album, some (tags.strings .game)), ("year", .date, some (tags.strings .year)),
      ("genre", .genre, some (tags.strings .genre)),
      ("comment", .comment, some (tags.strings .comment)),
      ("track", .track, some (tags.strings .track))]
    (some (tags.strings .artist)) (some (tags.strings .game)) (some (tags.strings .psfby))
    (some (tags.strings .copyright))

/-- `aopsf_scan_file` on what the probing `psf_load` gives: the version it returns, and the
tag pairs it read through `Aopsf_Info`, with `psx` unset. -/
def Aopsf.aopsfScanFile (handler : TagHandler) (version : Int)
    (pairs : List (List Char × List Char)) : Bool × List TagEvent :=
  let tags := (Aopsf.aopsfInfoAll {} pairs).tags
  if version ≤ 0 then (false, [])
  else (true,
    (if handler.wantDuration ∧ Aopsf.getPsfDurationMS tags.times > 0 then
      [.duration (Aopsf.getPsfDurationMS tags.times)] else []) ++
    (if handler.wantTag || handler.wantPair then Aopsf.emitTags handler tags else []))

theorem Aopsf.emitTags_artist (handler : TagHandler) (tags : Aopsf.AopsfTagValues) :
    (Aopsf.emitTags handler tags).filterMap (TagEvent.tagValue .artist) =
      if handler.wantTag then
        if isUsefulValue (tags.strings .artist) then usefulValue (some (tags.strings .artist))
        else usefulValue (some (tags.strings .game))
      else [] :=
  emitTagsOf_artist handler _ _ _ _ _ rfl

theorem filterMap_durationMs_emitTagsOf (handler : TagHandler)
    (tags : List (String × TagType × Option (List Char)))
    (artist game psfby copyright : Option (List Char)) :
    (emitTagsOf handler tags artist game psfby copyright).filterMap TagEvent.durationMs = [] := by
  simp [emitTagsOf, emitUsefulTag, List.filterMap_flatMap, TagEvent.durationMs,
    apply_ite (List.filterMap TagEvent.durationMs), List.filterMap_map, Function.comp_def]

/-- **The aopsf scan hands the handler useful values only, and the artist or else the game as
the artist.** -/
theorem Aopsf.aopsfScanFile_tags (handler : TagHandler) (version : Int)
    (pairs : List (List Char × List Char)) :
    (∀ e ∈ (Aopsf.aopsfScanFile handler version pairs).2, UsefulEvent e) ∧
      (0 < version → (Aopsf.aopsfScanFile handler version pairs).2.filterMap
        (TagEvent.tagValue .artist) =
        let tags := (Aopsf.aopsfInfoAll {} pairs).tags
        if handler.wantTag then
          if isUsefulValue (tags.strings .artist) then usefulValue (some (tags.strings .artist))
          else usefulValue (some (tags.strings .game))
        else []) := by
  refine ⟨?_, fun hv => ?_⟩
  · unfold aopsfScanFile
    split
    · nofun
    · refine List.forall_mem_append.mpr ⟨?_, ?_⟩
      · split
        · intro e he v hv
          rw [List.eq_of_mem_singleton he] at hv
          cases hv
        · nofun
      · split
        · exact emitTagsOf_useful handler _ _ _ _ _
        · nofun
  · have hdur : ∀ ms, (TagEvent.duration ms).tagValue .artist = none := fun _ => rfl
    simp only [aopsfScanFile, if_neg (Int.not_le.mpr hv), List.filterMap_append,
      apply_ite (List.filterMap (TagEvent.tagValue .artist)), List.filterMap_cons_none, hdur,
      List.filterMap_nil, List.nil_append, ite_self, Aopsf.emitTags_artist]
    rcases handler with ⟨_, _ | _, _ | _⟩ <;> rfl

/-- A PSF1 section whose artist is `"n/a"` and whose game is `"Wild Arms"`, scanned for
everything: the game stands in as the artist. -/
theorem Aopsf.naArtistSection_tags :
    0 < (1 : Int) ∧
      (∀ e ∈ (Aopsf.aopsfScanFile ⟨true, true, true⟩ 1
          [("artist".toList, "n/a".toList), ("game".toList, "Wild Arms".toList)]).2,
        UsefulEvent e) ∧
      (Aopsf.aopsfScanFile ⟨true, true, true⟩ 1
          [("artist".toList, "n/a".toList), ("game".toList, "Wild Arms".toList)]).2.filterMap
          (TagEvent.tagValue .artist) =
        let tags := (Aopsf.aopsfInfoAll {}
          [("artist".toList, "n/a".toList), ("game".toList, "Wild Arms".toList)]).tags
        if (⟨true, true, true⟩ : TagHandler).wantTag then
          if isUsefulValue (tags.strings .artist) then usefulValue (some (tags.strings .artist))
          else usefulValue (some (tags.strings .game))
        else [] :=
  ⟨by decide, (Aopsf.aopsfScanFile_tags ⟨true, true, true⟩ 1
      [("artist".toList, "n/a".toList), ("game".toList, "Wild Arms".toList)]).1,
    (Aopsf.aopsfScanFile_tags ⟨true, true, true⟩ 1
      [("artist".toList, "n/a".toList), ("game".toList, "Wild Arms".toList)]).2 (by decide)⟩

/-! ## 5. lazygsf: `GsfInfo` and `GsfLoadFile` -/

/-- `GsfEmitTag`: nothing without a handler (in a decode), else `EmitTag`'s useful-value
test. -/
def Lazygsf.gsfEmitTag (handler : Option TagHandler) (key : String) (type : TagType)
    (value : List Char) : List TagEvent :=
  match handler with
  | some h => emitUsefulTag h key type (some value)
  | none => []

/-- The rest of `GsfInfo`, for a name that is neither time: the six tags go to `GsfEmitTag`,
and `gsfby` and `copyright` straight to `OnPair`, with no usefulness test. -/
def Lazygsf.gsfInfoTags (handler : Option TagHandler) (p : List Char × List Char) :
    List TagEvent :=
  if stringIsEqualIgnoreCase p.1 "title".toList then
    Lazygsf.gsfEmitTag handler "title" .title p.2
  else if stringIsEqualIgnoreCase p.1 "artist".toList then
    Lazygsf.gsfEmitTag handler "artist" .artist p.2
  else if stringIsEqualIgnoreCase p.1 "game".toList then
    Lazygsf.gsfEmitTag handler "game" .album p.2
  else if stringIsEqualIgnoreCase p.1 "year".toList then
    Lazygsf.gsfEmitTag handler "year" .date p.2
  else if stringIsEqualIgnoreCase p.1 "genre".toList then
    Lazygsf.gsfEmitTag handler "genre" .genre p.2
  else if stringIsEqualIgnoreCase p.1 "comment".toList then
    Lazygsf.gsfEmitTag handler "comment" .comment p.2
  else match handler with
    | some h =>
      if h.wantPair then
        if stringIsEqualIgnoreCase p.1 "gsfby".toList then [.pair "gsfby" p.2]
        else if stringIsEqualIgnoreCase p.1 "copyright".toList then [.pair "copyright" p.2]
        else []
      else []
    | none => []

/-- `GsfInfo`: one `name=value` pair, with the handler of a scan (`none` in a decode).  The
times go to the holder; every other name to `gsfInfoTags`. -/
def Lazygsf.gsfInfo (handler : Option TagHandler) (s : Lazygsf.GsfTagHolder × List TagEvent)
    (p : List Char × List Char) : Lazygsf.GsfTagHolder × List TagEvent :=
  if stringIsEqualIgnoreCase p.1 "length".toList then
    ({ s.1 with lengthMs := Lazygsf.parsePsfTimeMS p.2 }, s.2)
  else if stringIsEqualIgnoreCase p.1 "fade".toList then
    ({ s.1 with fadeMs := Lazygsf.parsePsfTimeMS p.2 }, s.2)
  else (s.1, s.2 ++ Lazygsf.gsfInfoTags handler p)

/-- The pairs of a tag section through `GsfInfo`, in file order: the holder and the
handler's calls. -/
def Lazygsf.gsfInfoAll (handler : Option TagHandler) (holder : Lazygsf.GsfTagHolder)
    (pairs : List (List Char × List Char)) : Lazygsf.GsfTagHolder × List TagEvent :=
  pairs.foldl (Lazygsf.gsfInfo handler) (holder, [])

theorem Lazygsf.gsfInfo_lengthMs (handler : Option TagHandler)
    (s : Lazygsf.GsfTagHolder × List TagEvent) (p : List Char × List Char) :
    (Lazygsf.gsfInfo handler s p).1.lengthMs =
      if stringIsEqualIgnoreCase p.1 "length".toList then
        keepLast Lazygsf.parsePsfTimeMS s.1.lengthMs p.2
      else s.1.lengthMs := by
  unfold gsfInfo
  split
  · rfl
  · split <;> rfl

theorem Lazygsf.gsfInfo_fadeMs (handler : Option TagHandler)
    (s : Lazygsf.GsfTagHolder × List TagEvent) (p : List Char × List Char) :
    (Lazygsf.gsfInfo handler s p).1.fadeMs =
      if stringIsEqualIgnoreCase p.1 "fade".toList then
        keepLast Lazygsf.parsePsfTimeMS s.1.fadeMs p.2
      else s.1.fadeMs := by
  unfold gsfInfo
  split
  · rename_i hl
    rw [if_neg fun hf => absurd (stringIsEqualIgnoreCase_unique hl hf) (by decide)]
  · split <;> rfl

/-- **lazygsf keeps the last `length`**: the holder's length is that of the last `length` tag
(in any case), else what it was.  The fade likewise. -/
theorem Lazygsf.gsfInfoAll_lengthMs (handler : Option TagHandler) (holder : Lazygsf.GsfTagHolder)
    (pairs : List (List Char × List Char)) :
    (Lazygsf.gsfInfoAll handler holder pairs).1.lengthMs =
      ((valuesWhere (stringIsEqualIgnoreCase · "length".toList) pairs).map
        Lazygsf.parsePsfTimeMS).getLast?.getD holder.lengthMs := by
  rw [gsfInfoAll, ← foldl_keepLast]
  exact foldl_field (Lazygsf.gsfInfo handler)
    (fun s : Lazygsf.GsfTagHolder × List TagEvent => s.1.lengthMs) _ _
    (Lazygsf.gsfInfo_lengthMs handler) pairs (holder, [])

theorem Lazygsf.gsfInfoAll_fadeMs (handler : Option TagHandler) (holder : Lazygsf.GsfTagHolder)
    (pairs : List (List Char × List Char)) :
    (Lazygsf.gsfInfoAll handler holder pairs).1.fadeMs =
      ((valuesWhere (stringIsEqualIgnoreCase · "fade".toList) pairs).map
        Lazygsf.parsePsfTimeMS).getLast?.getD holder.fadeMs := by
  rw [gsfInfoAll, ← foldl_keepLast]
  exact foldl_field (Lazygsf.gsfInfo handler)
    (fun s : Lazygsf.GsfTagHolder × List TagEvent => s.1.fadeMs) _ _
    (Lazygsf.gsfInfo_fadeMs handler) pairs (holder, [])

theorem Lazygsf.gsfInfo_events (handler : Option TagHandler)
    (s : Lazygsf.GsfTagHolder × List TagEvent) (p : List Char × List Char) :
    (Lazygsf.gsfInfo handler s p).2 = s.2 ++
      if stringIsEqualIgnoreCase p.1 "length".toList ∨ stringIsEqualIgnoreCase p.1 "fade".toList
      then [] else Lazygsf.gsfInfoTags handler p := by
  unfold gsfInfo
  split
  · rename_i hl
    rw [if_pos (Or.inl hl), List.append_nil]
  · split
    · rename_i hf
      rw [if_pos (Or.inr hf), List.append_nil]
    · rw [if_neg (by simp_all)]

/-- What `GsfInfo` emits for a name that is neither time: a `GsfEmitTag`, or one of the two
untested pairs. -/
theorem Lazygsf.mem_gsfInfoTags {handler : Option TagHandler} {p : List Char × List Char}
    {e : TagEvent} (he : e ∈ Lazygsf.gsfInfoTags handler p) :
    (∃ key type, e ∈ Lazygsf.gsfEmitTag handler key type p.2) ∨
      e = .pair "gsfby" p.2 ∨ e = .pair "copyright" p.2 := by
  unfold gsfInfoTags at he
  iterate 6
    rcases mem_of_mem_ite he with he | he
    · exact .inl ⟨_, _, he⟩
  cases handler with
  | none => cases he
  | some h =>
    rcases mem_of_mem_ite he with he | he
    · rcases mem_of_mem_ite he with he | he
      · exact .inr (.inl (List.eq_of_mem_singleton he))
      · rcases mem_of_mem_ite he with he | he
        · exact .inr (.inr (List.eq_of_mem_singleton he))
        · cases he
    · cases he

/-- Every tag event of `GsfInfo` has a useful value. -/
theorem Lazygsf.gsfInfoTags_useful (handler : Option TagHandler) (p : List Char × List Char) :
    ∀ e ∈ Lazygsf.gsfInfoTags handler p, ∀ t v, e = .tag t v → isUsefulValue v := by
  intro e he t v hev
  rcases Lazygsf.mem_gsfInfoTags he with ⟨key, type, he⟩ | rfl | rfl
  · cases handler with
    | none => cases he
    | some h => exact emitUsefulTag_useful h key type _ e he v (by rw [hev]; rfl)
  · cases hev
  · cases hev

/-- **lazygsf emits tags with useful values only**, as the pairs arrive; its `gsfby` and
`copyright` pairs are not tested. -/
theorem Lazygsf.gsfInfoAll_useful (handler : Option TagHandler) (holder : Lazygsf.GsfTagHolder)
    (pairs : List (List Char × List Char)) :
    ∀ e ∈ (Lazygsf.gsfInfoAll handler holder pairs).2, ∀ t v, e = .tag t v →
      isUsefulValue v :=
  forall_mem_foldl_events _ _ (fun s p => ⟨_, Lazygsf.gsfInfo_events handler s p, by
    split
    · nofun
    · exact Lazygsf.gsfInfoTags_useful handler p⟩) pairs _ nofun

/-- A section with the artist `"Yoko"`, scanned for everything: its artist tag is useful. -/
theorem Lazygsf.yokoSection_useful :
    TagEvent.tag .artist "Yoko".toList ∈
        (Lazygsf.gsfInfoAll (some ⟨true, true, true⟩) {} [("artist".toList, "Yoko".toList)]).2 ∧
      isUsefulValue "Yoko".toList = true :=
  have hmem : TagEvent.tag .artist "Yoko".toList ∈
      (Lazygsf.gsfInfoAll (some ⟨true, true, true⟩) {} [("artist".toList, "Yoko".toList)]).2 := by
    decide
  ⟨hmem, Lazygsf.gsfInfoAll_useful _ _ _ _ hmem _ _ rfl⟩

/-- What `LazyUSF_TagHandler` fills: the holder's times, and its `enable_compare` and
`enable_fifo_full` flags. -/
structure Lazyusf.UsfTags where
  times : Lazyusf.LazyUSFTagHolder := {}
  enableCompare : Bool := false
  enableFifoFull : Bool := false
deriving DecidableEq, Repr

/-- The names `LazyUSF_TagHandler` maps to tag types, in its order. -/
def Lazyusf.usfTagMap : List (String × TagType) :=
  [("title", .title), ("artist", .artist), ("game", .album), ("year", .date), ("track", .track)]

/-- The handler calls `LazyUSF_TagHandler` makes for a pair: every pair to `OnPair`, and the
first mapped name the pair's name equals to `OnTag`, with the value as it is. -/
def Lazyusf.usfTagEvents (handler : Option TagHandler) (p : List Char × List Char) :
    List TagEvent :=
  match handler with
  | some h =>
    (if h.wantPair then [.pair ⟨p.1⟩ p.2] else []) ++
      (if h.wantTag then
        ((Lazyusf.usfTagMap.find? fun m => stringIsEqualIgnoreCase p.1 m.1.toList).map
          fun m => TagEvent.tag m.2 p.2).toList
      else [])
  | none => []

/-- The times and flags `LazyUSF_TagHandler` sets for a pair.  A flag is set by a non-empty
value. -/
def Lazyusf.usfTagUpdate (tags : Lazyusf.UsfTags) (p : List Char × List Char) :
    Lazyusf.UsfTags :=
  if stringIsEqualIgnoreCase p.1 "length".toList then
    { tags with times.lengthMs := Lazyusf.parseUSFTimeMS p.2 }
  else if stringIsEqualIgnoreCase p.1 "fade".toList then
    { tags with times.fadeMs := Lazyusf.parseUSFTimeMS p.2 }
  else if stringIsEqualIgnoreCase p.1 "_enablecompare".toList ∧ p.2 ≠ [] then
    { tags with enableCompare := true }
  else if stringIsEqualIgnoreCase p.1 "_enablefifofull".toList ∧ p.2 ≠ [] then
    { tags with enableFifoFull := true }
  else tags

/-- `LazyUSF_TagHandler`: the handler calls, then the times and the flags. -/
def Lazyusf.lazyUSFTagHandler (handler : Option TagHandler) (s : Lazyusf.UsfTags × List TagEvent)
    (p : List Char × List Char) : Lazyusf.UsfTags × List TagEvent :=
  (Lazyusf.usfTagUpdate s.1 p, s.2 ++ Lazyusf.usfTagEvents handler p)

/-- The pairs of a tag section through `LazyUSF_TagHandler`, in file order. -/
def Lazyusf.usfInfoAll (handler : Option TagHandler) (tags : Lazyusf.UsfTags)
    (pairs : List (List Char × List Char)) : Lazyusf.UsfTags × List TagEvent :=
  pairs.foldl (Lazyusf.lazyUSFTagHandler handler) (tags, [])

/-- What `psf_load` gives `LazyUSF_openfile`: the tag pairs it read, and its result. -/
structure Lazyusf.UsfLoad where
  pairs : List (List Char × List Char)
  rc : Int

/-- `LazyUSF_openfile`: reset the holder and run `psf_load`, whose tag pairs go through
`LazyUSF_TagHandler`.  A failure is logged and returns `false`.  Otherwise the flags go to the
library and the duration to a handler that wants it when there is a length. -/
def Lazyusf.lazyUSFOpenfile (handler : Option TagHandler) (load : Lazyusf.UsfLoad) :
    Bool × Lazyusf.UsfTags × List TagEvent :=
  let r := Lazyusf.usfInfoAll handler {} load.pairs
  if load.rc < 0 then (false, r.1, r.2 ++ [.warning "error loading file"])
  else (true, r.1, r.2 ++
    match handler with
    | some h =>
      if h.wantDuration ∧ r.1.times.lengthMs > 0 then
        [.duration (durationMS r.1.times.lengthMs r.1.times.fadeMs)]
      else []
    | none => [])

/-- `lazyusf_scan_file`: `LazyUSF_openfile` with the handler. -/
def Lazyusf.lazyusfScanFile (handler : TagHandler) (load : Lazyusf.UsfLoad) :
    Bool × List TagEvent :=
  ((Lazyusf.lazyUSFOpenfile (some handler) load).1,
    (Lazyusf.lazyUSFOpenfile (some handler) load).2.2)

theorem Lazyusf.lazyUSFTagHandler_events (handler : Option TagHandler)
    (s : Lazyusf.UsfTags × List TagEvent) (p : List Char × List Char) :
    (Lazyusf.lazyUSFTagHandler handler s p).2 = s.2 ++ Lazyusf.usfTagEvents handler p := rfl

theorem Lazyusf.lazyUSFTagHandler_lengthMs (handler : Option TagHandler)
    (s : Lazyusf.UsfTags × List TagEvent) (p : List Char × List Char) :
    (Lazyusf.lazyUSFTagHandler handler s p).1.times.lengthMs =
      if stringIsEqualIgnoreCase p.1 "length".toList then
        keepLast Lazyusf.parseUSFTimeMS s.1.times.lengthMs p.2
      else s.1.times.lengthMs := by
  unfold lazyUSFTagHandler usfTagUpdate
  split
  · rfl
  · repeat' split
    all_goals rfl

/-- **lazyusf keeps the last `length`.** -/
theorem Lazyusf.usfInfoAll_lengthMs (handler : Option TagHandler) (tags : Lazyusf.UsfTags)
    (pairs : List (List Char × List Char)) :
    (Lazyusf.usfInfoAll handler tags pairs).1.times.lengthMs =
      ((valuesWhere (stringIsEqualIgnoreCase · "length".toList) pairs).map
        Lazyusf.parseUSFTimeMS).getLast?.getD tags.times.lengthMs := by
  rw [usfInfoAll, ← foldl_keepLast]
  exact foldl_field (Lazyusf.lazyUSFTagHandler handler)
    (fun s : Lazyusf.UsfTags × List TagEvent => s.1.times.lengthMs) _ _
    (Lazyusf.lazyUSFTagHandler_lengthMs handler) pairs (tags, [])

theorem Lazyusf.filterMap_pairOf_usfTagEvents (h : TagHandler) (p : List Char × List Char) :
    (Lazyusf.usfTagEvents (some h) p).filterMap TagEvent.pairOf =
      if h.wantPair then [(⟨p.1⟩, p.2)] else [] := by
  unfold usfTagEvents
  rw [List.filterMap_append]
  cases h.wantTag
  · cases h.wantPair <;> rfl
  · cases usfTagMap.find? (fun m => stringIsEqualIgnoreCase p.1 m.1.toList) <;>
      cases h.wantPair <;> rfl

/-- **lazyusf hands every pair to `OnPair`, as it is**: names and values unfiltered, the
times and the library's own `_` tags included. -/
theorem Lazyusf.usfInfoAll_pairs (h : TagHandler) (tags : Lazyusf.UsfTags)
    (pairs : List (List Char × List Char)) :
    (Lazyusf.usfInfoAll (some h) tags pairs).2.filterMap TagEvent.pairOf =
      if h.wantPair then pairs.map (fun p => (⟨p.1⟩, p.2)) else [] := by
  suffices hrun : ∀ (s : Lazyusf.UsfTags × List TagEvent),
      (pairs.foldl (Lazyusf.lazyUSFTagHandler (some h)) s).2.filterMap TagEvent.pairOf =
        s.2.filterMap TagEvent.pairOf ++
          if h.wantPair then pairs.map (fun p => (⟨p.1⟩, p.2)) else [] from
    hrun (tags, [])
  induction pairs with
  | nil => intro s; cases h.wantPair <;> simp
  | cons p ps ih =>
    intro s
    rw [List.foldl_cons, ih, lazyUSFTagHandler_events, List.filterMap_append,
      filterMap_pairOf_usfTagEvents]
    cases h.wantPair <;> simp

/-- **The lazyusf scan hands every tag pair of the file to `OnPair`, as it is**: names and
values unfiltered, the times and the library's own `_` tags included, and also when
`psf_load` fails after reading them. -/
theorem Lazyusf.lazyusfScanFile_pairs (handler : TagHandler) (load : Lazyusf.UsfLoad) :
    (Lazyusf.lazyusfScanFile handler load).2.filterMap TagEvent.pairOf =
      if handler.wantPair then load.pairs.map (fun p => (⟨p.1⟩, p.2)) else [] := by
  have htail : ∀ l : List TagEvent, (∀ e ∈ l, e.value = none) →
      l.filterMap TagEvent.pairOf = [] := fun l hl =>
    List.filterMap_eq_nil_iff.mpr fun e he => by
      have := hl e he
      cases e <;> simp_all [TagEvent.value, TagEvent.pairOf]
  unfold lazyusfScanFile lazyUSFOpenfile
  split
  · rw [List.filterMap_append, usfInfoAll_pairs, htail _ (by simp [TagEvent.value]),
      List.append_nil]
  · rw [List.filterMap_append, usfInfoAll_pairs, htail _ ?_, List.append_nil]
    split
    · split
      · intro e he
        rw [List.eq_of_mem_singleton he]
        rfl
      · nofun
    · nofun

end Vgmpd
