/-
# The configuration the decoder list reads, and `ParseCodecList`

`DecoderList.cxx` reads three settings of a `decoder` block: `plugin`, `enabled` and
`codecs`.  This module models the blocks, the lookup `ConfigData::FindBlock` that
`decoder_plugin_init_all` uses, the ASCII case folding of `util/CharUtil.hxx`, and
`ParseCodecList`, the scanner that turns a `codecs` value into lower-cased tokens.

The scanner is the one loop of the module.  `parseCodecListFrom_eq` says what it computes
in the library's words: the non-empty pieces of the value split at every delimiter
(`List.splitOnP`), each lower-cased.  That is the "maximal run of characters that are
neither `','` nor whitespace" of the codec override grammar, and it is the only fact about
the scanner the priority table needs.  Read the other way, it makes the scanner the inverse
of writing a list with commas (`parseCodecList_intercalate`).

`IsWhitespaceFast` lives in `util/CharUtil.hxx`, which is not part of the source; the scanner
therefore takes the whitespace test as a parameter and every result holds for any choice.
-/
import Mathlib.Data.List.Basic

namespace Vgmpd

/-! ## 1. Configuration blocks -/

/-- A `decoder` block of the configuration, reduced to the settings `DecoderList.cxx` reads:
`plugin` and `codecs` as strings, `enabled` as the boolean `GetBlockValue` parses.  `none`
is a setting the block does not carry. -/
structure ConfigBlock where
  plugin : Option String := none
  enabled : Option Bool := none
  codecs : Option String := none
deriving DecidableEq, Repr

/-- `param->GetBlockValue("enabled", true)`: a block enables its plugin unless it says
`enabled "no"`. -/
def ConfigBlock.isEnabled (b : ConfigBlock) : Bool := b.enabled.getD true

/-- Modelled from the spec: `ConfigData::FindBlock(DECODER, "plugin", name)`
(`config/Data.cxx`, not in the source) returns the first `decoder` block, in file order,
whose `plugin` value is `name`. -/
def findBlock (config : List ConfigBlock) (name : String) : Option ConfigBlock :=
  config.find? (fun b => b.plugin == some name)

/-! ## 2. ASCII case folding -/

/-- Modelled from the spec: `ToLowerASCII` (`util/CharUtil.hxx`, not in the source) maps
`'A'..'Z'` to `'a'..'z'` and leaves every other character alone, which is `Char.toLower`. -/
def toLowerASCII (c : Char) : Char := c.toLower

/-- A string with `ToLowerASCII` applied to each character, as `decoder_plugins_for_suffix`
builds its key. -/
def lowerASCII (s : String) : String := ⟨s.data.map toLowerASCII⟩

@[simp] theorem lowerASCII_data (s : String) : (lowerASCII s).data = s.data.map toLowerASCII :=
  rfl

@[simp] theorem lowerASCII_eq_empty {s : String} : lowerASCII s = "" ↔ s = "" := by
  constructor <;> intro h
  · have := congrArg String.data h
    exact String.ext (by simpa using this)
  · subst h; rfl

/-! ## 3. `ParseCodecList` -/

section Parse

variable (isWhitespaceFast : Char → Bool)

/-- The delimiters of a codec list: `','` and every character `IsWhitespaceFast` accepts. -/
def isCodecDelimiter (c : Char) : Bool := c == ',' || isWhitespaceFast c

/-- The outer `while` of `ParseCodecList`, from the current index on (`s` is the rest of the
view): skip a run of delimiters, stop at the end, otherwise scan the token up to the next
delimiter and push it lower-cased.  The two emptiness guards of the source are kept. -/
def parseCodecListFrom (s : List Char) : List String :=
  match _h : s.dropWhile (isCodecDelimiter isWhitespaceFast) with
  | [] => []
  | c :: rest =>
    let token := (c :: rest).takeWhile (fun c => !isCodecDelimiter isWhitespaceFast c)
    (if token = [] then [] else [String.mk (token.map toLowerASCII)]) ++
      parseCodecListFrom ((c :: rest).dropWhile (fun c => !isCodecDelimiter isWhitespaceFast c))
termination_by s.length
decreasing_by
  have hc : isCodecDelimiter isWhitespaceFast c = false := by
    simpa [_h] using List.head_dropWhile_not (isCodecDelimiter isWhitespaceFast) s (by simp [_h])
  have hle : (s.dropWhile (isCodecDelimiter isWhitespaceFast)).length ≤ s.length :=
    (List.dropWhile_suffix _).length_le
  rw [_h] at hle
  simp only [List.dropWhile_cons, hc, Bool.not_false, if_true]
  have :=
    (List.dropWhile_suffix (fun c => !isCodecDelimiter isWhitespaceFast c) (l := rest)).length_le
  simp only [List.length_cons] at hle
  omega

/-- `ParseCodecList(value)`: no tokens for an absent value. -/
def parseCodecList (value : Option String) : List String :=
  match value with
  | none => []
  | some v => parseCodecListFrom isWhitespaceFast v.data

/-- The tokens of a codec list in the library's words: the non-empty pieces of the value
between delimiters, i.e. its maximal runs of non-delimiter characters. -/
def codecTokens (value : Option String) : List String :=
  match value with
  | none => []
  | some v => ((v.data.splitOnP (isCodecDelimiter isWhitespaceFast)).filter
      (fun t => !t.isEmpty)).map String.mk

end Parse

/-! ## 4. The scanner computes the maximal runs -/

section Tokens

variable {d : Char → Bool}

/-- A run of delimiters in front of a value adds no token. -/
theorem filter_splitOnP_delims {pre : List Char} (hpre : ∀ c ∈ pre, d c = true)
    (l : List Char) :
    ((pre ++ l).splitOnP d).filter (fun t => !t.isEmpty) =
      (l.splitOnP d).filter (fun t => !t.isEmpty) := by
  induction pre with
  | nil => rfl
  | cons c pre ih =>
    rw [List.cons_append, List.splitOnP_cons, if_pos (hpre c (by simp)), List.filter_cons]
    simpa using ih (fun c hc => hpre c (by simp [hc]))

/-- A token followed by the end of the value or by a delimiter is split off whole. -/
theorem filter_splitOnP_token {t r : List Char} (ht : ∀ c ∈ t, d c = false)
    (hr : ∀ sep as, r = sep :: as → d sep = true) :
    ((t ++ r).splitOnP d).filter (fun t => !t.isEmpty) =
      (if t = [] then [] else [t]) ++ (r.splitOnP d).filter (fun t => !t.isEmpty) := by
  have ht' : ∀ c ∈ t, ¬ d c = true := fun c hc => by simp [ht c hc]
  match r, hr with
  | [], _ =>
    rw [List.append_nil, List.splitOnP_eq_single _ _ ht']
    by_cases h : t = [] <;> simp [h, List.splitOnP_nil]
  | sep :: as, hr =>
    rw [List.splitOnP_first _ _ ht' sep (hr sep as rfl) as, List.splitOnP_cons,
      if_pos (hr sep as rfl)]
    by_cases h : t = [] <;> simp [h, List.filter_cons]

variable (isWhitespaceFast : Char → Bool)

/-- **`ParseCodecList` computes the maximal runs.**  The scanner returns the non-empty pieces
of its input between delimiters, in order, each lower-cased. -/
theorem parseCodecListFrom_eq (s : List Char) :
    parseCodecListFrom isWhitespaceFast s =
      (((s.splitOnP (isCodecDelimiter isWhitespaceFast)).filter (fun t => !t.isEmpty)).map
        fun t => String.mk (t.map toLowerASCII)) := by
  induction s using parseCodecListFrom.induct isWhitespaceFast with
  | case1 s h =>
    have hs : ((s.splitOnP (isCodecDelimiter isWhitespaceFast)).filter
        (fun t => !t.isEmpty)) = [] := by
      simpa [List.splitOnP_nil] using
        filter_splitOnP_delims (List.dropWhile_eq_nil_iff.mp h) []
    rw [hs, parseCodecListFrom]
    split
    · rfl
    · simp_all
  | case2 s c rest h ih =>
    rw [parseCodecListFrom]
    split
    · simp_all
    · rename_i c' rest' h'
      rw [h] at h'
      injection h' with h1 h2
      subst h1 h2
      rw [ih]
      have hs : (s.splitOnP (isCodecDelimiter isWhitespaceFast)).filter (fun t => !t.isEmpty) =
          ((c :: rest).splitOnP (isCodecDelimiter isWhitespaceFast)).filter
            (fun t => !t.isEmpty) := by
        conv_lhs =>
          rw [← List.takeWhile_append_dropWhile (isCodecDelimiter isWhitespaceFast) s, h]
        exact filter_splitOnP_delims (fun _ hx => List.mem_takeWhile_imp hx) _
      have ht := filter_splitOnP_token
        (t := (c :: rest).takeWhile (fun c => !isCodecDelimiter isWhitespaceFast c))
        (r := (c :: rest).dropWhile (fun c => !isCodecDelimiter isWhitespaceFast c))
        (fun _ hx => by simpa using List.mem_takeWhile_imp hx)
        (fun sep as hr => by
          simpa [hr] using List.head_dropWhile_not
            (fun c => !isCodecDelimiter isWhitespaceFast c) (c :: rest) (by simp [hr]))
      rw [List.takeWhile_append_dropWhile] at ht
      rw [hs, ht, List.map_append]
      by_cases hemp : (c :: rest).takeWhile (fun c => !isCodecDelimiter isWhitespaceFast c) = []
      · simp only [hemp, if_true, List.map_nil]
      · simp only [hemp, if_false, List.map_cons, List.map_nil]

/-- `ParseCodecList` on a whole setting: the codec tokens, lower-cased. -/
theorem parseCodecList_eq (value : Option String) :
    parseCodecList isWhitespaceFast value =
      (codecTokens isWhitespaceFast value).map lowerASCII := by
  cases value with
  | none => rfl
  | some v => simp [parseCodecList, codecTokens, parseCodecListFrom_eq, lowerASCII]

end Tokens

/-! ## 5. Printing a codec list -/

theorem intercalate_cons_cons {α : Type} (sep l l' : List α) (ls : List (List α)) :
    sep.intercalate (l :: l' :: ls) = l ++ sep ++ sep.intercalate (l' :: ls) := by
  simp [List.intercalate, List.intersperse_cons_cons]

theorem intercalate_cons {α : Type} (sep l : List α) :
    ∀ ls : List (List α), sep.intercalate (l :: ls) = l ++ (ls.map (sep ++ ·)).flatten
  | [] => by simp [List.intercalate]
  | l' :: ls => by
    rw [intercalate_cons_cons, intercalate_cons sep l' ls]
    simp [List.append_assoc]

theorem intercalateGo_data (s : String) :
    ∀ (acc : String) (ts : List String),
      (String.intercalate.go acc s ts).data = acc.data ++ (ts.map fun t => s.data ++ t.data).flatten
  | acc, [] => by simp [String.intercalate.go]
  | acc, t :: ts => by simp [String.intercalate.go, intercalateGo_data s _ ts, List.append_assoc]

/-- `String.intercalate` is the list library's `intercalate` on the characters. -/
theorem stringIntercalate_data (s : String) :
    ∀ ts : List String, (String.intercalate s ts).data = s.data.intercalate (ts.map String.data)
  | [] => rfl
  | t :: ts => by
    rw [String.intercalate, intercalateGo_data, List.map_cons, intercalate_cons]
    simp [Function.comp_def]

/-- Splitting at a delimiter undoes joining with it, when no piece holds a delimiter. -/
theorem splitOnP_intercalate {d : Char → Bool} {sep : Char} (hsep : d sep = true) :
    ∀ ls : List (List Char), (∀ l ∈ ls, ∀ c ∈ l, d c = false) → ls ≠ [] →
      ([sep].intercalate ls).splitOnP d = ls
  | [], _, h => absurd rfl h
  | [l], hl, _ => by
    simpa [List.intercalate] using
      List.splitOnP_eq_single d l (fun c hc => by simp [hl l (.head _) c hc])
  | l :: l' :: ls, hl, _ => by
    rw [intercalate_cons_cons, List.append_assoc, List.singleton_append,
      List.splitOnP_first d l (fun c hc => by simp [hl l (.head _) c hc]) sep hsep,
      splitOnP_intercalate hsep (l' :: ls) (fun l h => hl l (.tail _ h)) (List.cons_ne_nil _ _)]

/-- **A codec list written with commas reads back as its codecs, lower-cased.**  Joining
non-empty tokens that hold no delimiter with `","` and handing the result to
`ParseCodecList` gives the tokens back, in order, each folded to lower case. -/
theorem parseCodecList_intercalate (isWhitespaceFast : Char → Bool) {tokens : List String}
    (htok : ∀ t ∈ tokens, t ≠ "" ∧ ∀ c ∈ t.data, isCodecDelimiter isWhitespaceFast c = false) :
    parseCodecList isWhitespaceFast (some (String.intercalate "," tokens)) =
      tokens.map lowerASCII := by
  rw [parseCodecList_eq]
  rcases eq_or_ne tokens [] with rfl | hne
  · rfl
  have hsplit := @splitOnP_intercalate (isCodecDelimiter isWhitespaceFast) ','
    (by simp [isCodecDelimiter]) (tokens.map String.data)
    (by simpa using fun t ht => (htok t ht).2) (by simpa using hne)
  have hfilter : (tokens.map String.data).filter (fun t => !t.isEmpty) = tokens.map String.data :=
    List.filter_eq_self.2 fun l hl => by
      obtain ⟨⟨t⟩, ht, rfl⟩ := List.mem_map.1 hl
      have := (htok _ ht).1
      cases t <;> simp_all
  simp only [codecTokens, stringIntercalate_data, hsplit, hfilter, List.map_map]
  rfl

theorem parseCodecList_mp3Flac :
    (∀ t ∈ ["MP3", "Flac"], t ≠ "" ∧ ∀ c ∈ t.data, isCodecDelimiter (· == ' ') c = false) ∧
      parseCodecList (· == ' ') (some (String.intercalate "," ["MP3", "Flac"])) =
        ["mp3", "flac"] :=
  ⟨by decide, (parseCodecList_intercalate (· == ' ') (by decide)).trans (by decide)⟩

end Vgmpd
