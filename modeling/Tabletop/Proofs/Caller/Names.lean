import Tabletop.Caller
import Mathlib.Data.List.TakeWhile

/-!
# Names of callers

Where proxies are trusted, `Request.addressed` is the name that the request gives: of the two headers only what is not blank
counts, then the peer, then `local`.  It is a name whatever the headers hold.  The identity of a caller is this name unless the
header that decides is neither empty nor has anything but blanks where the name should be; then it is empty, and callers of
whatever peers share it (`identity_eq_addressed_iff`).
-/

namespace Tabletop

/-- A text that can name a caller: it is not empty, and it neither begins nor ends with a blank. -/
structure IsName (s : String) : Prop where
  nonempty : s ≠ ""
  head : ∀ c ∈ s.toList.head?, Text.isBlank c = false
  last : ∀ c ∈ s.toList.getLast?, Text.isBlank c = false

theorem isName_of_ends {s : String} {c d : Char} (hhead : s.toList.head? = some c) (hlast : s.toList.getLast? = some d)
    (hc : Text.isBlank c = false) (hd : Text.isBlank d = false) : IsName s := by
  refine ⟨?_, fun e he => ?_, fun e he => ?_⟩
  · rintro rfl
    cases hhead
  · obtain rfl := Option.some.inj (hhead.symm.trans he)
    exact hc
  · obtain rfl := Option.some.inj (hlast.symm.trans he)
    exact hd

namespace Request

/-! ### Stripping -/

theorem strip_of_blank {text : List Char} (h : text.all Text.isBlank) : strip text = "" := by
  have hnone : text.dropWhile Text.isBlank = [] := List.dropWhile_eq_nil_iff.mpr (List.all_eq_true.mp h)
  unfold strip Text.trim
  rw [hnone]
  rfl

theorem isName_strip {text : List Char} (h : text.all Text.isBlank = false) : IsName (strip text) := by
  let begun := text.dropWhile Text.isBlank
  let ended := begun.reverse.dropWhile Text.isBlank
  have hstrip : (strip text).toList = ended.reverse := String.toList_ofList
  -- The first character that is left is not blank, so it stays when the end is cut.
  obtain ⟨c, rest, hbegun⟩ : ∃ c rest, begun = c :: rest := by
    apply List.exists_cons_of_ne_nil
    intro hnil
    rw [List.all_eq_true.mpr (List.dropWhile_eq_nil_iff.mp hnil)] at h
    cases h
  have hc : Text.isBlank c = false := by
    have hhead := List.head?_dropWhile_not Text.isBlank text
    rw [show text.dropWhile Text.isBlank = c :: rest from hbegun] at hhead
    exact hhead
  have hended : ended ≠ [] := by
    intro hnil
    have hblank := List.dropWhile_eq_nil_iff.mp hnil c (List.mem_reverse.mpr (by rw [hbegun]; exact List.mem_cons_self))
    rw [hc] at hblank
    cases hblank
  have hlast : ended.getLast? = some c := by
    obtain ⟨before, hbefore⟩ : ended <:+ begun.reverse := List.dropWhile_suffix _
    have hwhole : (before ++ ended).getLast? = some c := by
      rw [hbefore, List.getLast?_reverse, hbegun, List.head?_cons]
    rwa [List.getLast?_append, Option.or_of_isSome (List.getLast?_isSome.mpr hended)] at hwhole
  refine ⟨fun hempty => ?_, fun d hd => ?_, fun d hd => ?_⟩
  · rw [hempty] at hstrip
    exact hended (List.reverse_eq_nil_iff.mp hstrip.symm)
  · rw [hstrip, List.head?_reverse, hlast] at hd
    obtain rfl := Option.some.inj hd
    exact hc
  · rw [hstrip, List.getLast?_reverse] at hd
    have hhead := List.head?_dropWhile_not Text.isBlank begun.reverse
    rw [show (begun.reverse.dropWhile Text.isBlank).head? = some d from hd] at hhead
    exact hhead

/-! ### The name that a request gives -/

/-- The name in a text, unless the text is blank. -/
def nameIn? (text : List Char) : Option String :=
  if text.all Text.isBlank then none else some (strip text)

/-- What stands before the first comma, or all. -/
def leading (value : String) : List Char := (value.toList.splitOn ',').headD []

/-- The name that the headers give: one that is blank counts as absent, like one that is empty. -/
def named? (r : Request) : Option String :=
  ((r.header? "x-forwarded-for").bind fun value => nameIn? (leading value)).or
    ((r.header? "cf-connecting-ip").bind fun value => nameIn? value.toList)

/-- The name that a request gives where proxies are trusted. -/
def addressed (r : Request) : String := (r.named?.or r.peer).getD localName

/-- The first header that is not empty has only blanks where the name should be. -/
def HidesName (r : Request) : Prop :=
  (∃ value, r.filled? "x-forwarded-for" = some value ∧ (leading value).all Text.isBlank) ∨
    r.filled? "x-forwarded-for" = none ∧
      ∃ value, r.filled? "cf-connecting-ip" = some value ∧ value.toList.all Text.isBlank

theorem isName_of_nameIn? {text : List Char} {name : String} (h : nameIn? text = some name) : IsName name := by
  unfold nameIn? at h
  split at h
  · cases h
  · rename_i hblank
    cases h
    exact isName_strip (Bool.eq_false_iff.mpr hblank)

theorem isName_localName : IsName localName := isName_of_ends (c := 'l') (d := 'l') rfl rfl rfl rfl

theorem isName_of_named? {r : Request} {name : String} (h : r.named? = some name) : IsName name := by
  rcases Option.or_eq_some_iff.mp h with hforwarded | ⟨-, hconnecting⟩
  · obtain ⟨value, -, hvalue⟩ := Option.bind_eq_some_iff.mp hforwarded
    exact isName_of_nameIn? hvalue
  · obtain ⟨value, -, hvalue⟩ := Option.bind_eq_some_iff.mp hconnecting
    exact isName_of_nameIn? hvalue

theorem isName_addressed {r : Request} (hpeer : ∀ host, r.peer = some host → IsName host) : IsName r.addressed := by
  unfold addressed
  cases hfound : r.named?.or r.peer with
  | none => exact isName_localName
  | some name =>
    rcases Option.or_eq_some_iff.mp hfound with hnamed | ⟨-, hhost⟩
    · exact isName_of_named? hnamed
    · exact hpeer name hhost

/-! ### The identity beside it -/

theorem leading_eq (value : String) : leading value = value.toList.takeWhile (· != ',') := by
  unfold leading
  rw [List.splitOn_eq_splitOnP]
  induction value.toList with
  | nil => rfl
  | cons c rest ih =>
    rw [List.splitOnP_cons_eq_if_modifyHead, List.takeWhile_cons]
    by_cases hc : c = ','
    · simp [hc]
    · obtain ⟨entry, others, hsplit⟩ := List.exists_cons_of_ne_nil (List.splitOnP_ne_nil (· == ',') rest)
      rw [hsplit] at ih ⊢
      simpa [hc] using ih

/-- What is not filled gives no name. -/
theorem bind_of_not_filled {r : Request} {name : String} (h : r.filled? name = none) (pick : String → List Char)
    (hpick : pick "" = []) : ((r.header? name).bind fun value => nameIn? (pick value)) = none := by
  unfold filled? at h
  cases hheader : r.header? name with
  | none => rfl
  | some value =>
    rw [hheader, Option.filter_eq_none_iff] at h
    have hempty : value.isEmpty = true := by simpa using h value rfl
    obtain rfl : value = "" := String.isEmpty_iff.mp hempty
    show nameIn? (pick "") = none
    rw [hpick]
    rfl

theorem header?_of_filled {r : Request} {name value : String} (h : r.filled? name = some value) :
    r.header? name = some value :=
  (Option.filter_eq_some_iff.mp h).1

theorem identity_of_forwarded {r : Request} {name : String} (h : r.forwarded? = some name) : r.identity true = name := by
  unfold identity
  rw [if_pos rfl, h]

theorem identity_of_not_forwarded {r : Request} (h : r.forwarded? = none) :
    r.identity true = r.peer.getD localName := by
  unfold identity
  rw [if_pos rfl, h]

section

variable {r : Request} {value : String}

theorem forwarded?_of_filled (h : r.filled? "x-forwarded-for" = some value) :
    r.forwarded? = some (strip (leading value)) := by
  unfold forwarded?
  rw [h, leading_eq]
  rfl

theorem forwarded?_of_not_filled (h : r.filled? "x-forwarded-for" = none) :
    r.forwarded? = (r.filled? "cf-connecting-ip").map fun value => strip value.toList := by
  unfold forwarded?
  rw [h]

theorem named?_of_filled (h : r.filled? "x-forwarded-for" = some value)
    (hshown : (leading value).all Text.isBlank = false) : r.named? = some (strip (leading value)) := by
  have hname : nameIn? (leading value) = some (strip (leading value)) := if_neg (Bool.eq_false_iff.mp hshown)
  unfold named?
  rw [header?_of_filled h, Option.bind_some, hname, Option.some_or]

theorem named?_of_not_filled (h : r.filled? "x-forwarded-for" = none) :
    r.named? = (r.header? "cf-connecting-ip").bind fun value => nameIn? value.toList := by
  unfold named?
  rw [bind_of_not_filled h leading rfl, Option.none_or]

end

/-- The header that decides gives its name or, if it hides it, an empty one. -/
theorem forwarded?_cases (r : Request) :
    (r.HidesName ∧ r.forwarded? = some "") ∨ (¬r.HidesName ∧ r.forwarded? = r.named?) := by
  unfold HidesName
  cases hforwarded : r.filled? "x-forwarded-for" with
  | some value =>
    rw [forwarded?_of_filled hforwarded]
    cases hblank : (leading value).all Text.isBlank with
    | true => exact .inl ⟨.inl ⟨value, rfl, hblank⟩, congrArg some (strip_of_blank hblank)⟩
    | false =>
      refine .inr ⟨?_, (named?_of_filled hforwarded hblank).symm⟩
      rintro (⟨value', hvalue, hblank'⟩ | ⟨hnone, -⟩)
      · obtain rfl := Option.some.inj hvalue
        rw [hblank] at hblank'
        cases hblank'
      · cases hnone
  | none =>
    rw [forwarded?_of_not_filled hforwarded, named?_of_not_filled hforwarded]
    cases hconnecting : r.filled? "cf-connecting-ip" with
    | some value =>
      rw [header?_of_filled hconnecting]
      cases hblank : value.toList.all Text.isBlank with
      | true => exact .inl ⟨.inr ⟨rfl, value, rfl, hblank⟩, congrArg some (strip_of_blank hblank)⟩
      | false =>
        refine .inr ⟨?_, (if_neg (Bool.eq_false_iff.mp hblank)).symm⟩
        rintro (⟨_, hnone, -⟩ | ⟨-, value', hvalue, hblank'⟩)
        · cases hnone
        · obtain rfl := Option.some.inj hvalue
          rw [hblank] at hblank'
          cases hblank'
    | none =>
      refine .inr ⟨?_, (bind_of_not_filled hconnecting String.toList rfl).symm⟩
      rintro (⟨_, hnone, -⟩ | ⟨-, _, hnone, -⟩) <;> cases hnone

/-- Where proxies are trusted and the peer, if any, has a name, what the request gives is a name, and it is the caller's
identity unless the header that decides hides it; then the identity is empty. -/
theorem identity_eq_addressed_iff {r : Request} (hpeer : ∀ host, r.peer = some host → IsName host) :
    IsName r.addressed ∧ (r.identity true = r.addressed ↔ ¬r.HidesName) ∧ (r.HidesName → r.identity true = "") := by
  have hname : IsName r.addressed := isName_addressed hpeer
  rcases r.forwarded?_cases with ⟨hhides, hforwarded⟩ | ⟨hshows, hforwarded⟩
  · have hidentity := identity_of_forwarded hforwarded
    refine ⟨hname, ⟨fun heq => ?_, fun hshows => absurd hhides hshows⟩, fun _ => hidentity⟩
    rw [hidentity] at heq
    exact absurd heq.symm hname.nonempty
  · refine ⟨hname, ⟨fun _ => hshows, fun _ => ?_⟩, fun hhides => absurd hhides hshows⟩
    unfold addressed
    cases hnamed : r.named? with
    | some name => exact identity_of_forwarded (hforwarded.trans hnamed)
    | none => exact identity_of_not_forwarded (hforwarded.trans hnamed)

/-- The first entry begins and ends with blanks that are not ASCII, and the name is not that of the peer. -/
private def relayed : Request :=
  ⟨[("x-forwarded-for", "\u00a0 a\u0085,b"), ("cf-connecting-ip", "c"), ("x-forwarded-for", "d")], some "10.0.0.9"⟩

theorem identity_eq_addressed_iff_relayed :
    (∀ host, relayed.peer = some host → IsName host) ∧ IsName relayed.addressed ∧ ¬relayed.HidesName ∧
      relayed.addressed = "a" ∧ relayed.identity true = relayed.addressed := by
  have hpeer : ∀ host, relayed.peer = some host → IsName host := by
    rintro host ⟨⟩
    exact isName_of_ends (c := '1') (d := '9') rfl rfl rfl rfl
  obtain ⟨hname, hiff, -⟩ := identity_eq_addressed_iff hpeer
  have hidentity : relayed.identity true = "a" := by decide +kernel
  have haddressed : relayed.addressed = "a" := by decide +kernel
  have heq := hidentity.trans haddressed.symm
  exact ⟨hpeer, hname, hiff.mp heq, haddressed, heq⟩

/-- Callers from two peers whose headers have only blanks before the first comma share the empty identity, though one of them
gives an address in the other header. -/
theorem identity_of_blank_entry :
    let first : Request := ⟨[("x-forwarded-for", " , b"), ("cf-connecting-ip", "cf")], some "10.0.0.8"⟩
    let second : Request := ⟨[("x-forwarded-for", ",")], some "10.0.0.9"⟩
    first.addressed = "cf" ∧ second.addressed = "10.0.0.9" ∧ first.identity true = "" ∧ second.identity true = "" ∧
      ¬IsName (first.identity true) := by
  intro first second
  have hempty : first.identity true = "" := by decide +kernel
  refine ⟨by decide +kernel, by decide +kernel, hempty, by decide +kernel, fun hname => ?_⟩
  exact hname.nonempty hempty

end Request

end Tabletop
