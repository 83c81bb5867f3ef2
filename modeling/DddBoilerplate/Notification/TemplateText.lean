/- module: DddBoilerplate/Notification/TemplateText
   generality: I
   digest: The renderer of templates, and that it puts the value at each path in the placeholder's place. -/

import Mathlib.Data.List.TakeWhile
import DddBoilerplate.Domain.Text
import DddBoilerplate.Notification.Requests

set_option autoImplicit false
set_option relaxedAutoImplicit false
set_option linter.all false

namespace DddBoilerplate.Notification

open Text (isSpace)

section Values

/-- What a template's model may hold: numbers and dates as the texts the language has for them, and
the functions its objects inherit. -/
inductive ModelValue where
  | undefined
  | null
  | bool (value : Bool)
  | number (text : String)
  | string (value : String)
  | date (iso : String)
  | array (items : List ModelValue)
  | object (fields : List (String × ModelValue))
  | function

namespace ModelValue

/-- `typeof value === 'object'`, of what is not null. -/
def isObject : ModelValue → Bool
  | date _ | array _ | object _ => true
  | _ => false

/-- The own property of a value. -/
def own? : ModelValue → String → Option ModelValue
  | object fields, key => fields.lookup key
  | array items, key =>
    if key = "length" then some (number (toString items.length))
    else (items.zipIdx.find? fun item => toString item.2 = key).map Prod.fst
  | _, _ => none

/-- What a value is left out for in a JSON text. -/
def isOmitted : ModelValue → Bool
  | undefined | function => true
  | _ => false

end ModelValue

/-- One character of a string of a JSON text. -/
def jsonCharacter (c : Char) : List Char :=
  let backslash := Char.ofNat 0x5C
  let quote := Char.ofNat 0x22
  if c = quote ∨ c = backslash then [backslash, c]
  else
    match c.toNat with
    | 8 => [backslash, 'b']
    | 9 => [backslash, 't']
    | 10 => [backslash, 'n']
    | 12 => [backslash, 'f']
    | 13 => [backslash, 'r']
    | n =>
      if n < 0x20 then [backslash, 'u', '0', '0', (n / 16).digitChar, (n % 16).digitChar] else [c]

def jsonString (s : String) : String :=
  let quote := Char.ofNat 0x22
  String.ofList (quote :: (s.toList.flatMap jsonCharacter ++ [quote]))

def jsonNumber (text : String) : String :=
  if text ∈ ["NaN", "Infinity", "-Infinity"] then "null" else text

mutual

/-- `JSON.stringify`, of a value that has a text; one that has none stands as null in an array. -/
def jsonText : ModelValue → String
  | .undefined | .null | .function => "null"
  | .bool value => toString value
  | .number text => jsonNumber text
  | .string value => jsonString value
  | .date iso => jsonString iso
  | .array items => "[" ++ Text.join "," (jsonItems items) ++ "]"
  | .object fields => "\x7b" ++ Text.join "," (jsonFields fields) ++ "\x7d"

def jsonItems : List ModelValue → List String
  | [] => []
  | item :: items => jsonText item :: jsonItems items

def jsonFields : List (String × ModelValue) → List String
  | [] => []
  | (key, value) :: fields =>
    if value.isOmitted then jsonFields fields
    else (jsonString key ++ ":" ++ jsonText value) :: jsonFields fields

end

/-- The text of a value; what has no JSON text is put there as undefined. -/
def formatValue : ModelValue → String
  | .undefined | .null => ""
  | .string value => value
  | .number text => text
  | .bool value => toString value
  | .date iso => iso
  | .function => "undefined"
  | value => jsonText value

end Values

section Paths

/-- The properties a value has from its prototype. -/
abbrev Inherited : Type := ModelValue → String → Option ModelValue

variable (inherited : Inherited)

/-- One step of `resolvePath`: `in` also finds what is inherited. -/
def readKey (value : ModelValue) (key : String) : ModelValue :=
  if value.isObject then ((value.own? key).orElse fun _ => inherited value key).getD .undefined
  else .undefined

/-- `path.split('.')` -/
def keysOf (path : List Char) : List String := (path.splitOn '.').map String.ofList

def resolvePath (model : ModelValue) (path : List Char) : ModelValue :=
  (keysOf path).foldl (readKey inherited) model

/-- The value at a path: that of own properties, and undefined where there is none. -/
def valueAt (model : ModelValue) (path : List Char) : ModelValue :=
  (keysOf path).foldl (fun value key => (value.own? key).getD .undefined) model

/-- No name on the way is one that the value there only inherits. -/
def StaysOwn : ModelValue → List String → Prop
  | _, [] => True
  | value, key :: keys =>
    (value.isObject = true → value.own? key = none → inherited value key = none) ∧
      StaysOwn ((value.own? key).getD .undefined) keys

end Paths

section Interpolation

/-- `\w` and the dot. -/
def isPathChar (c : Char) : Bool := c.isAlphanum || c = '_' || c = '.'

/-- The path of the placeholder a text starts with, and what is behind it. -/
def placeholder? : List Char → Option (List Char × List Char)
  | '{' :: '{' :: rest =>
    let inner := rest.dropWhile isSpace
    match inner.takeWhile isPathChar, (inner.dropWhile isPathChar).dropWhile isSpace with
    | first :: path, '}' :: '}' :: behind => some (first :: path, behind)
    | _, _ => none
  | _ => none

/-- `source.replace(VARIABLE_PATTERN, …)`: the characters a match has taken are passed over. -/
def replaceFrom (textAt : List Char → List Char) : Nat → List Char → List Char
  | _, [] => []
  | skip + 1, _ :: rest => replaceFrom textAt skip rest
  | 0, c :: rest =>
    match placeholder? (c :: rest) with
    | some (path, behind) => textAt path ++ replaceFrom textAt (rest.length - behind.length) rest
    | none => c :: replaceFrom textAt 0 rest

def interpolate (inherited : Inherited) (source : String) (model : ModelValue) : String :=
  String.ofList (replaceFrom (fun path => (formatValue (resolvePath inherited model path)).toList) 0
    source.toList)

/-- `TemplateRenderer.render` -/
def TemplateRenderer.render (inherited : Inherited) (version : NotificationTemplateVersion)
    (model : ModelValue) : Option String × String :=
  ((version.subject.filter (· ≠ "")).map fun subject => interpolate inherited subject model,
    interpolate inherited version.body model)

end Interpolation

section Placeholders

attribute [local simp] placeholder? replaceFrom

variable {textAt : List Char → List Char} {text text' path path' before behind : List Char}

/-- A placeholder: a path between two pairs of braces, with spaces on either side or none. -/
inductive Placeholder : List Char → List Char → Prop where
  | mk (left path right : List Char) (hleft : ∀ c ∈ left, isSpace c = true)
      (hright : ∀ c ∈ right, isSpace c = true) (hne : path ≠ [])
      (hpath : ∀ c ∈ path, isPathChar c = true) :
      Placeholder ('{' :: '{' :: (left ++ (path ++ (right ++ ['}', '}'])))) path

/-- The code points of a path's characters, none of which is a space or a brace. -/
theorem bounds_of_isPathChar {c : Char} (h : isPathChar c = true) :
    0x2E ≤ c.toNat ∧ c.toNat ≤ 0x7A := by
  delta isPathChar Char.isAlphanum Char.isAlpha Char.isUpper Char.isLower Char.isDigit at h
  simp only [Bool.or_eq_true, Bool.and_eq_true, decide_eq_true_eq, UInt32.le_iff_toNat_le,
    ge_iff_le] at h
  change (((((65 ≤ c.toNat ∧ c.toNat ≤ 90) ∨ 97 ≤ c.toNat ∧ c.toNat ≤ 122) ∨
    48 ≤ c.toNat ∧ c.toNat ≤ 57) ∨ c = '_') ∨ c = '.') at h
  rcases h with (h | rfl) | rfl
  · omega
  · decide
  · decide

theorem not_isSpace_of_isPathChar {c : Char} (h : isPathChar c = true) : ¬ isSpace c = true := by
  have hbounds := bounds_of_isPathChar h
  simp only [isSpace, Bool.or_eq_true, Bool.and_eq_true, decide_eq_true_eq, List.mem_cons,
    List.not_mem_nil, or_false]
  omega

theorem isSpace_not_isPathChar {c : Char} (h : isSpace c = true) : ¬ isPathChar c = true :=
  fun hpath => not_isSpace_of_isPathChar hpath h

/-- Behind its opening braces, a placeholder has no other. -/
theorem Placeholder.eq_braces (h : Placeholder text path) :
    ∃ tail, text = '{' :: '{' :: tail ∧ tail ≠ [] ∧ '{' ∉ tail := by
  obtain ⟨left, path, right, hleft, hright, hne, hpath⟩ := h
  refine ⟨_, rfl, by simp, ?_⟩
  have hspace : ¬ isSpace '{' = true := by decide
  have hname : ¬ isPathChar '{' = true := by decide
  simp only [List.mem_append, List.mem_cons, List.not_mem_nil, or_false]
  rintro (h | h | h | h)
  · exact hspace (hleft _ h)
  · exact hname (hpath _ h)
  · exact hspace (hright _ h)
  · rcases h with h | h <;> exact absurd h (by decide)

/-- A text that starts with a placeholder is matched by it. -/
theorem placeholder?_append (h : Placeholder text path) :
    placeholder? (text ++ behind) = some (path, behind) := by
  obtain ⟨left, path, right, hleft, hright, hne, hpath⟩ := h
  have hclosing : ¬ isSpace '}' = true := by decide
  have hclosed : ¬ isPathChar '}' = true := by decide
  obtain ⟨first, names, rfl⟩ := List.exists_cons_of_ne_nil hne
  have hfirst := hpath first List.mem_cons_self
  have hrest : ('{' :: '{' :: (left ++ (first :: names ++ (right ++ ['}', '}'])))) ++ behind =
      '{' :: '{' :: (left ++ (first :: names ++ (right ++ '}' :: '}' :: behind))) := by
    simp
  have hinner : (left ++ (first :: names ++ (right ++ '}' :: '}' :: behind))).dropWhile isSpace =
      first :: names ++ (right ++ '}' :: '}' :: behind) := by
    rw [List.dropWhile_append_of_pos hleft, List.cons_append,
      List.dropWhile_cons_of_neg (not_isSpace_of_isPathChar hfirst)]
  have hbehind : (right ++ '}' :: '}' :: behind).takeWhile isPathChar = [] ∧
      (right ++ '}' :: '}' :: behind).dropWhile isPathChar = right ++ '}' :: '}' :: behind := by
    cases right with
    | nil => exact ⟨List.takeWhile_cons_of_neg hclosed, List.dropWhile_cons_of_neg hclosed⟩
    | cons c right =>
      have hc := isSpace_not_isPathChar (hright c List.mem_cons_self)
      exact ⟨List.takeWhile_cons_of_neg hc, List.dropWhile_cons_of_neg hc⟩
  have htake : (first :: names ++ (right ++ '}' :: '}' :: behind)).takeWhile isPathChar =
      first :: names := by
    rw [List.takeWhile_append_of_pos hpath, hbehind.1, List.append_nil]
  have hdrop : ((first :: names ++ (right ++ '}' :: '}' :: behind)).dropWhile
      isPathChar).dropWhile isSpace = '}' :: '}' :: behind := by
    rw [List.dropWhile_append_of_pos hpath, hbehind.2, List.dropWhile_append_of_pos hright,
      List.dropWhile_cons_of_neg hclosing]
  rw [hrest, placeholder?]
  simp only [hinner, htake, hdrop]

/-- And what is matched is a placeholder. -/
theorem placeholder_of_match {chars : List Char} (h : placeholder? chars = some (path, behind)) :
    ∃ text, Placeholder text path ∧ chars = text ++ behind := by
  unfold placeholder? at h
  split at h
  · rename_i rest
    simp only at h
    split at h
    · rename_i first names behind' htake hdrop
      cases h
      have hspaces : ∀ c ∈ rest.takeWhile isSpace, isSpace c = true := fun c hc =>
        List.mem_takeWhile_imp hc
      have hnames : ∀ c ∈ first :: names, isPathChar c = true := by
        rw [← htake]
        exact fun c hc => List.mem_takeWhile_imp hc
      have hgap : ∀ c ∈ ((rest.dropWhile isSpace).dropWhile isPathChar).takeWhile isSpace,
          isSpace c = true := fun c hc => List.mem_takeWhile_imp hc
      refine ⟨_, .mk _ _ _ hspaces hgap (List.cons_ne_nil first names) hnames, ?_⟩
      have hsplit : rest = rest.takeWhile isSpace ++ (first :: names ++
          (((rest.dropWhile isSpace).dropWhile isPathChar).takeWhile isSpace ++
            '}' :: '}' :: behind)) := by
        rw [← hdrop, List.takeWhile_append_dropWhile, ← htake, List.takeWhile_append_dropWhile,
          List.takeWhile_append_dropWhile]
      rw [List.cons_append, List.cons_append, List.append_assoc, List.append_assoc,
        List.append_assoc]
      exact congrArg (fun chars => '{' :: '{' :: chars) hsplit
    · cases h
  · cases h

/-- Two placeholders do not overlap: one that starts ahead of another ends ahead of it. -/
theorem Placeholder.apart (h : Placeholder text path) (h' : Placeholder text' path')
    (hne : before ≠ []) {rest : List Char} (heq : before ++ (text ++ behind) = text' ++ rest) :
    ∃ between, before = text' ++ between ∧ rest = between ++ (text ++ behind) := by
  rcases List.append_eq_append_iff.mp heq with ⟨more, hmore, hrest⟩ | hbefore
  · cases more with
    | nil =>
      rw [List.append_nil] at hmore
      exact ⟨[], by rw [hmore, List.append_nil], hrest.symm⟩
    | cons d more =>
      obtain ⟨tail, rfl, _, _⟩ := h.eq_braces
      obtain ⟨tail', rfl, htail', hfree'⟩ := h'.eq_braces
      obtain rfl : '{' = d := (List.cons.inj hrest).1
      obtain ⟨c, before, rfl⟩ := List.exists_cons_of_ne_nil hne
      cases before with
      | nil =>
        obtain ⟨t, tail', rfl⟩ := List.exists_cons_of_ne_nil htail'
        have hinner : more = t :: tail' :=
          (List.cons.inj (List.cons.inj hmore).2).2.symm
        rw [hinner] at hrest
        have hbrace : '{' = t := (List.cons.inj (List.cons.inj hrest).2).1
        exact absurd (hbrace ▸ List.mem_cons_self) hfree'
      | cons c' before =>
        have hinner : tail' = before ++ '{' :: more :=
          (List.cons.inj (List.cons.inj hmore).2).2
        refine absurd ?_ hfree'
        rw [hinner]
        exact List.mem_append_right _ List.mem_cons_self
  · exact hbefore

theorem replaceFrom_skip (skip : Nat) (chars : List Char) :
    replaceFrom textAt skip chars = replaceFrom textAt 0 (chars.drop skip) := by
  induction chars generalizing skip with
  | nil => cases skip <;> rfl
  | cons c chars ih =>
    cases skip with
    | zero => rfl
    | succ skip => exact ih skip

theorem replaceFrom_placeholder (h : Placeholder text path) :
    replaceFrom textAt 0 (text ++ behind) = textAt path ++ replaceFrom textAt 0 behind := by
  have hmatch := @placeholder?_append text path behind h
  obtain ⟨tail, rfl, _, _⟩ := h.eq_braces
  have hdrop : ('{' :: tail ++ behind).drop (('{' :: tail ++ behind).length - behind.length) =
      behind := by
    rw [List.length_append, Nat.add_sub_cancel, List.drop_left]
  rw [List.cons_append, replaceFrom]
  rw [List.cons_append] at hmatch
  simp only [hmatch]
  rw [replaceFrom_skip, hdrop]

/-- Whatever stands around it, a placeholder is replaced, and the texts on its sides on their own. -/
theorem replaceFrom_append (h : Placeholder text path) (before behind : List Char) :
    replaceFrom textAt 0 (before ++ (text ++ behind)) =
      replaceFrom textAt 0 before ++ (textAt path ++ replaceFrom textAt 0 behind) := by
  induction hlength : before.length using Nat.strong_induction_on generalizing before with
  | _ n ih =>
    cases before with
    | nil => exact replaceFrom_placeholder h
    | cons c before =>
      cases hmatch : placeholder? (c :: before ++ (text ++ behind)) with
      | some found =>
        obtain ⟨path', rest⟩ := found
        obtain ⟨text', htext', heq⟩ := placeholder_of_match hmatch
        obtain ⟨between, hbefore, rfl⟩ := h.apart htext' (List.cons_ne_nil _ _) heq
        have hshorter : between.length < n := by
          have hlong := congrArg List.length hbefore
          obtain ⟨tail', rfl, _, _⟩ := htext'.eq_braces
          rw [List.length_append, List.length_cons] at hlong
          rw [← hlength]
          simp only [List.length_cons] at hlong ⊢
          omega
        rw [hbefore, List.append_assoc, replaceFrom_placeholder htext',
          replaceFrom_placeholder htext', ih _ hshorter between rfl, List.append_assoc]
      | none =>
        have hnone : placeholder? (c :: before) = none := by
          cases hfound : placeholder? (c :: before) with
          | none => rfl
          | some found =>
            obtain ⟨text', htext', heq⟩ := placeholder_of_match hfound
            rw [heq, List.append_assoc, placeholder?_append htext'] at hmatch
            cases hmatch
        have hrest := ih before.length (by rw [← hlength]; exact Nat.lt_succ_self _) before rfl
        rw [List.cons_append] at hmatch ⊢
        rw [replaceFrom, replaceFrom]
        simp only [hmatch, hnone]
        rw [hrest, List.cons_append]

/-- A text without placeholders stays. -/
theorem replaceFrom_free {source : List Char}
    (h : ∀ before text behind path, source = before ++ (text ++ behind) → ¬ Placeholder text path) :
    replaceFrom textAt 0 source = source := by
  induction source with
  | nil => rfl
  | cons c source ih =>
    have hnone : placeholder? (c :: source) = none := by
      cases hfound : placeholder? (c :: source) with
      | none => rfl
      | some found =>
        obtain ⟨text, htext, heq⟩ := placeholder_of_match hfound
        exact absurd htext (h [] text found.2 found.1 heq)
    rw [replaceFrom]
    simp only [hnone]
    rw [ih]
    intro before text behind path heq
    exact h (c :: before) text behind path (by rw [heq, List.cons_append])

end Placeholders

section Rendering

attribute [local simp] readKey

/-- A text with every placeholder replaced by the text for its path. -/
inductive Rendered (textAt : List Char → List Char) : List Char → List Char → Prop where
  | free {source : List Char} (h : ∀ before text behind path,
      source = before ++ (text ++ behind) → ¬ Placeholder text path) : Rendered textAt source source
  | replaced {before text behind path out out' : List Char} (hplaceholder : Placeholder text path)
      (hbefore : Rendered textAt before out) (hbehind : Rendered textAt behind out') :
      Rendered textAt (before ++ (text ++ behind)) (out ++ (textAt path ++ out'))

variable {textAt textAt' : List Char → List Char} {source out : List Char}

/-- There is exactly one such text, and the renderer makes it. -/
theorem rendered_iff : Rendered textAt source out ↔ out = replaceFrom textAt 0 source := by
  constructor
  · intro h
    induction h with
    | free h => exact (replaceFrom_free h).symm
    | replaced hplaceholder _ _ ihbefore ihbehind =>
      rw [replaceFrom_append hplaceholder, ihbefore, ihbehind]
  · rintro rfl
    induction hlength : source.length using Nat.strong_induction_on generalizing source with
    | _ n ih =>
      by_cases hfree : ∀ before text behind path, source = before ++ (text ++ behind) →
          ¬ Placeholder text path
      · rw [replaceFrom_free hfree]
        exact .free hfree
      · push Not at hfree
        obtain ⟨before, text, behind, path, rfl, htext⟩ := hfree
        obtain ⟨tail, rfl, _, _⟩ := htext.eq_braces
        simp only [List.length_append, List.length_cons] at hlength
        rw [replaceFrom_append htext]
        exact .replaced htext (ih _ (by omega) rfl) (ih _ (by omega) rfl)

/-- Only the texts for its own paths matter. -/
theorem Rendered.congr (h : Rendered textAt source out)
    (heq : ∀ before text behind path, source = before ++ (text ++ behind) → Placeholder text path →
      textAt path = textAt' path) : Rendered textAt' source out := by
  induction h with
  | free h => exact .free h
  | @replaced before text behind path out out' hplaceholder _ _ ihbefore ihbehind =>
    rw [heq before text behind path rfl hplaceholder]
    refine .replaced hplaceholder (ihbefore ?_) (ihbehind ?_)
    · rintro front inner back path' rfl hinner
      exact heq front inner (back ++ (text ++ behind)) path' (by simp) hinner
    · rintro front inner back path' rfl hinner
      exact heq (before ++ (text ++ front)) inner back path' (by simp) hinner

variable {inherited : Inherited} {model : ModelValue}

theorem own?_of_not_isObject {value : ModelValue} {key : String} (h : value.isObject = false) :
    value.own? key = none := by
  cases value with
  | date | array | object => cases h
  | _ => rfl

theorem foldl_readKey {keys : List String} (h : StaysOwn inherited model keys) :
    keys.foldl (readKey inherited) model =
      keys.foldl (fun value key => (value.own? key).getD .undefined) model := by
  induction keys generalizing model with
  | nil => rfl
  | cons key keys ih =>
    obtain ⟨hkey, hrest⟩ := h
    have hread : readKey inherited model key = (model.own? key).getD .undefined := by
      unfold readKey
      split
      · rename_i hobject
        cases hown : model.own? key with
        | some value => rfl
        | none =>
          rw [hkey hobject hown]
          rfl
      · rename_i hobject
        rw [own?_of_not_isObject (Bool.eq_false_iff.mpr hobject)]
        rfl
    rw [List.foldl_cons, List.foldl_cons, hread]
    exact ih hrest

/-- The placeholders of a text name nothing that is only inherited. -/
def OwnPaths (inherited : Inherited) (model : ModelValue) (source : String) : Prop :=
  ∀ before text behind path, source.toList = before ++ (text ++ behind) → Placeholder text path →
    StaysOwn inherited model (keysOf path)

instance decidableStaysOwn (inherited : Inherited) :
    (model : ModelValue) → (keys : List String) → Decidable (StaysOwn inherited model keys)
  | _, [] => .isTrue trivial
  | model, key :: keys =>
    have := decidableStaysOwn inherited ((model.own? key).getD .undefined) keys
    have : Decidable (model.own? key = none) := decidable_of_iff _ Option.isNone_iff_eq_none
    have : Decidable (inherited model key = none) := decidable_of_iff _ Option.isNone_iff_eq_none
    inferInstanceAs (Decidable (_ ∧ _))

/-- It is enough to look at every place a match may start at. -/
theorem ownPaths_of_matches {source : String}
    (h : ∀ n ∈ List.range source.toList.length, ∀ found ∈ placeholder? (source.toList.drop n),
      StaysOwn inherited model (keysOf found.1)) : OwnPaths inherited model source := by
  intro before text behind path heq htext
  have hmatch := @placeholder?_append text path behind htext
  have hdrop : source.toList.drop before.length = text ++ behind := by
    rw [heq, List.drop_left]
  have hlt : before.length < source.toList.length := by
    obtain ⟨tail, rfl, _, _⟩ := htext.eq_braces
    rw [heq]
    simp
  exact h before.length (List.mem_range.mpr hlt) (path, behind) (by rw [hdrop, hmatch]; rfl)

/-- The text of the value at a path. -/
def valueText (model : ModelValue) (path : List Char) : List Char :=
  (formatValue (valueAt model path)).toList

theorem rendered_interpolate {source : String} (h : OwnPaths inherited model source) :
    Rendered (valueText model) source.toList (interpolate inherited source model).toList := by
  have hmade := @rendered_iff (fun path => (formatValue (resolvePath inherited model path)).toList)
    source.toList (interpolate inherited source model).toList
  refine (hmade.mpr (String.toList_ofList ..)).congr fun before text behind path heq htext => ?_
  rw [valueText, valueAt, ← foldl_readKey (h before text behind path heq htext)]
  rfl

/-- A message is a template's rendering with a model: its body, and its subject where it has one. -/
structure RenderedFrom (model : ModelValue) (version : NotificationTemplateVersion)
    (rendered : RenderedMessage) : Prop where
  body : Rendered (valueText model) version.body.toList rendered.body.toList
  subject : ∀ subject, version.subject = some subject → subject ≠ "" →
    ∃ text, rendered.subject = some text ∧
      Rendered (valueText model) subject.toList text.toList
  noSubject : version.subject.getD "" = "" → rendered.subject = none

/-- The renderer renders the template, where its placeholders name nothing that is inherited. -/
theorem renderedFrom_render {version : NotificationTemplateVersion} (address : String)
    (hbody : OwnPaths inherited model version.body)
    (hsubject : ∀ subject, version.subject = some subject → OwnPaths inherited model subject) :
    RenderedFrom model version ⟨address, (TemplateRenderer.render inherited version model).1,
      (TemplateRenderer.render inherited version model).2⟩ where
  body := rendered_interpolate hbody
  subject subject heq hne := by
    refine ⟨interpolate inherited subject model, ?_, rendered_interpolate (hsubject subject heq)⟩
    simp [TemplateRenderer.render, heq, hne, Option.filter]
  noSubject h := by
    cases hversion : version.subject with
    | none => simp [TemplateRenderer.render, hversion]
    | some subject =>
      rw [hversion] at h
      obtain rfl : subject = "" := h
      simp [TemplateRenderer.render, hversion, Option.filter]

end Rendering

end DddBoilerplate.Notification
