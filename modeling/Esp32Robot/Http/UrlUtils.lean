import Esp32Robot.Base.CString

/-!
# URLs of redirects

The helpers of `https_client_utils.h` that a redirect uses: a relative `Location` is joined with
the last URL, and the origins of the two decide about the authorization. Joining follows the
directories of the base up to its root, and one step above the root it replaces the host. The
origins are compared as meant, unless a URL has user information.
-/

namespace Esp32Robot.Http

open Esp32Robot.Base

/-! ### The code -/

/-- `strstr`: the offset of the first occurrence of `p`. -/
def strstr (p : List UInt8) : List UInt8 → Option Nat
  | [] => if p = [] then some 0 else none
  | c :: cs => if p.isPrefixOf (c :: cs) then some 0 else (strstr p cs).map (· + 1)

/-- `get_slash` forwards over a whole string: the first slash that no other slash follows; two in a
row are passed over. -/
def firstSlash : List UInt8 → Option Nat
  | [] => none
  | [c] => if c = 47 then some 0 else none
  | c :: d :: cs =>
    if c = 47 then if d = 47 then (firstSlash cs).map (· + 2) else some 0
    else (firstSlash (d :: cs)).map (· + 1)

/-- `get_slash` backwards: the last slash of the first `len` bytes. -/
def lastSlash (s : List UInt8) : Nat → Option Nat
  | 0 => none
  | len + 1 => if s.getD len 0 = 47 then some len else lastSlash s len

/-- The loop of `join_url` over `../`, `https_client_utils.h:97–104`: what is left of the
reference, and how much of the base. -/
def skipParents (base : List UInt8) : List UInt8 → Nat → Option (Nat × List UInt8)
  | a :: b :: c :: ext, len =>
    if a = 46 ∧ b = 46 ∧ c = 47 then (lastSlash base len).bind (skipParents base ext)
    else some (len, a :: b :: c :: ext)
  | ext, len => some (len, ext)

/-- `strrchr`: the offset of the last `c`. -/
def strrchr (s : List UInt8) (c : UInt8) : Option Nat :=
  (s.reverse.idxOf? c).map (s.length - 1 - ·)

/-- `join_url`, `https_client_utils.h:67–129`. -/
def joinUrl (base ext : List UInt8) : Option (List UInt8) :=
  if strncmp ext (ascii "http") 4 = 0 then some ext
  else if ext.head? = some 47 then
    let s := if ext.tail.head? = some 47 then strstr (ascii "//") base else firstSlash base
    s.map (fun len ↦ base.take len ++ ext)
  else if ext.head? = some 46 then
    (lastSlash base base.length).bind (fun len ↦
      if ext.length = 1 then some (base.take (len + 1))
      else if ext.tail.head? = some 47 then some (base.take (len + 1) ++ ext.drop 2)
      else (skipParents base ext len).map (fun (len, ext) ↦ base.take (len + 1) ++ ext))
  else if ext.head? = some 35 then some (base ++ ext)
  else if ext.head? = some 63 then
    some (base.take ((strrchr base 63).getD base.length) ++ ext)
  else (lastSlash base base.length).map (fun len ↦ base.take (len + 1) ++ ext)

/-- `url_component_t`: the bytes of the scheme and the host, and the port. -/
structure UrlComponent where
  scheme : List UInt8
  host : List UInt8
  port : UInt16
  deriving DecidableEq

/-- The bytes of the host end at a colon or a slash. -/
def inHost (c : UInt8) : Bool := c ≠ 58 && c ≠ 47

/-- `parse_url`, `https_client_utils.h:131–158`. The lengths are 16 bits wide. -/
def parseUrl (url : List UInt8) : Option UrlComponent :=
  (strstr (ascii "://") url).map (fun p ↦
    let scheme := url.take (p % 65536)
    let rest := url.drop (p + 3)
    let h := rest.dropWhile inHost
    { scheme := scheme
      host := rest.take ((rest.takeWhile inHost).length % 65536)
      port :=
        if h.head? = some 58 then UInt16.ofInt (strtol h.tail)
        else if scheme = ascii "https" then 443
        else if scheme = ascii "http" then 80
        else 0 })

/-- `is_same_origin`, `https_client_utils.h:160–174`. -/
def isSameOrigin (url₁ url₂ : List UInt8) : Bool :=
  match parseUrl url₁, parseUrl url₂ with
  | some c₁, some c₂ => c₁.scheme = c₂.scheme && c₁.host = c₂.host && c₁.port = c₂.port
  | _, _ => false

/-! ### Slashes -/

/-- The last slash, when none follows it within the bytes looked at. -/
theorem lastSlash_append {a b r : List UInt8} (hb : 47 ∉ b) :
    lastSlash (a ++ 47 :: (b ++ r)) (a.length + 1 + b.length) = some a.length := by
  induction hn : b.length generalizing b r with
  | zero =>
    rw [Nat.add_zero, lastSlash]
    simp
  | succ n ih =>
    obtain rfl | ⟨b, c, rfl⟩ := List.eq_nil_or_concat b
    · simp at hn
    · rw [List.concat_eq_append] at hb hn ⊢
      rw [List.length_append, List.length_singleton, Nat.add_right_cancel_iff] at hn
      have hc : c ≠ 47 := fun h ↦ hb (by simp [h])
      have hget : (a ++ 47 :: (b ++ [c] ++ r)).getD (a.length + 1 + n) 0 = c := by
        have hi : a.length + 1 + n = (a ++ 47 :: b).length := by
          rw [List.length_append, List.length_cons, hn]
          omega
        have happ : a ++ 47 :: (b ++ [c] ++ r) = (a ++ 47 :: b) ++ c :: r := by simp
        rw [happ, hi]
        simp
      rw [← Nat.add_assoc, lastSlash, if_neg (by rw [hget]; exact hc), List.append_assoc]
      exact ih (fun h ↦ hb (List.mem_append_left _ h)) hn

/-- The first slash is passed over when it has two slashes, and found when one. -/
theorem firstSlash_append {a r : List UInt8} (ha : 47 ∉ a) :
    firstSlash (a ++ r) = (firstSlash r).map (· + a.length) := by
  induction a with
  | nil => simp
  | cons c cs ih =>
    have hc : c ≠ 47 := fun h ↦ ha (by simp [h])
    have hcs : 47 ∉ cs := List.not_mem_of_not_mem_cons ha
    have hstep : firstSlash (c :: (cs ++ r)) = (firstSlash (cs ++ r)).map (· + 1) := by
      cases cs ++ r with
      | nil => simp [firstSlash, hc]
      | cons d ds => simp [firstSlash, hc]
    rw [List.cons_append, hstep, ih hcs, Option.map_map]
    rfl

/-- The offset of a separator whose first byte does not occur before it. -/
theorem strstr_append {c : UInt8} {p a r : List UInt8} (ha : c ∉ a) :
    strstr (c :: p) (a ++ (c :: p ++ r)) = some a.length := by
  induction a with
  | nil => simp [strstr]
  | cons d ds ih =>
    have hd : c ≠ d := fun h ↦ ha (by simp [h])
    rw [List.cons_append, strstr, if_neg (by simp [hd]), ih (List.not_mem_of_not_mem_cons ha)]
    rfl

/-! ### Joining -/

/-- A byte of a path, which a query or a fragment ends. -/
def inPath (c : UInt8) : Bool := c ≠ 63 && c ≠ 35

/-- A URL with a path: the directories, none empty or of dots only, and what follows the last slash,
a query and a fragment included. -/
structure BaseUrl where
  scheme : List UInt8
  authority : List UInt8
  dirs : List (List UInt8)
  leaf : List UInt8
  noSlash : 47 ∉ scheme ∧ 47 ∉ authority ∧ 47 ∉ leaf
  dirsOk : ∀ d ∈ dirs, d ≠ [] ∧ 47 ∉ d
  noQuery : authority.all inPath = true ∧ ∀ d ∈ dirs, d.all inPath = true
  noDots : ∀ d ∈ leaf.takeWhile inPath :: dirs, d ≠ [46] ∧ d ≠ [46, 46]

/-- The text of directories. -/
def dirsText (dirs : List (List UInt8)) : List UInt8 := dirs.flatMap (47 :: ·)

namespace BaseUrl

/-- What comes before the path. -/
def root (u : BaseUrl) : List UInt8 := u.scheme ++ [58, 47] ++ 47 :: u.authority

/-- The text of a URL. -/
def text (u : BaseUrl) : List UInt8 := u.root ++ dirsText u.dirs ++ 47 :: u.leaf

end BaseUrl

/-- A reference to a path from the root, from the directory of the base, or from so many
directories above it. -/
inductive Reference where
  | rooted (path : List UInt8)
  | here (path : List UInt8)
  | above (ups : Nat) (path : List UInt8)

namespace Reference

/-- The text of steps to the parent directory. -/
def parents : Nat → List UInt8
  | 0 => []
  | n + 1 => 46 :: 46 :: 47 :: parents n

/-- The text of a reference. -/
def text : Reference → List UInt8
  | rooted path => 47 :: path
  | here path => 46 :: 47 :: path
  | above ups path => parents ups ++ path

/-- How many directories it goes up. -/
def ups : Reference → Nat
  | above ups _ => ups
  | _ => 0

/-- The path does not read as something else. -/
def Plain : Reference → Prop
  | rooted path => path.head? ≠ some 47
  | here _ => True
  | above ups path => ¬ [46, 46, 47] <+: path ∧
      (ups = 0 → ¬ ascii "http" <+: path ∧ path ≠ [46] ∧ ¬ [46, 47] <+: path ∧
        ∀ c ∈ path.head?, c ≠ 47 ∧ c ≠ 35 ∧ c ≠ 63)

end Reference

/-- What a reference means: at the root there is no parent directory. -/
def BaseUrl.resolve (u : BaseUrl) : Reference → List UInt8
  | .rooted path => u.root ++ 47 :: path
  | .here path => u.root ++ dirsText u.dirs ++ 47 :: path
  | .above ups path => u.root ++ dirsText (u.dirs.take (u.dirs.length - ups)) ++ 47 :: path

/-- One directory more. -/
theorem dirsText_concat (dirs : List (List UInt8)) (d : List UInt8) :
    dirsText (dirs ++ [d]) = dirsText dirs ++ 47 :: d := by
  simp [dirsText]

/-- The slash before the last directory. -/
theorem lastSlash_dirs {a d r : List UInt8} {dirs : List (List UInt8)} (hd : 47 ∉ d) :
    lastSlash (a ++ dirsText (dirs ++ [d]) ++ r) (a ++ dirsText (dirs ++ [d])).length =
      some (a ++ dirsText dirs).length := by
  have hlast := lastSlash_append (a := a ++ dirsText dirs) (r := r) hd
  rw [dirsText_concat]
  simp only [List.append_assoc, List.cons_append, List.length_append, List.length_cons] at hlast ⊢
  rw [show a.length + ((dirsText dirs).length + (d.length + 1)) =
    a.length + (dirsText dirs).length + 1 + d.length by omega]
  exact hlast

/-- A path that does not start with a step to the parent is left as it is. -/
theorem skipParents_of_plain (base : List UInt8) (len : Nat) {path : List UInt8}
    (h : ¬ [46, 46, 47] <+: path) : skipParents base path len = some (len, path) := by
  match path, h with
  | [], _ | [_], _ | [_, _], _ => rfl
  | a :: b :: c :: path, h =>
    rw [skipParents, if_neg]
    rintro ⟨rfl, rfl, rfl⟩
    exact h ⟨path, rfl⟩

/-- A step to the parent. -/
theorem skipParents_succ {base path : List UInt8} {n len : Nat} :
    skipParents base (Reference.parents (n + 1) ++ path) len =
      (lastSlash base len).bind (skipParents base (Reference.parents n ++ path)) := rfl

/-- Steps within the directories. -/
theorem skipParents_dirs {a p r : List UInt8} {dirs : List (List UInt8)} {n k : Nat}
    (hdirs : ∀ d ∈ dirs, 47 ∉ d) (hn : n ≤ dirs.length) :
    skipParents (a ++ dirsText dirs ++ r) (Reference.parents (n + k) ++ p)
        (a ++ dirsText dirs).length =
      skipParents (a ++ dirsText dirs ++ r) (Reference.parents k ++ p)
        (a ++ dirsText (dirs.take (dirs.length - n))).length := by
  induction n generalizing dirs r with
  | zero => rw [Nat.zero_add, Nat.sub_zero, List.take_length]
  | succ n ih =>
    obtain rfl | ⟨dirs, d, rfl⟩ := List.eq_nil_or_concat dirs
    · exact absurd hn (by simp)
    · rw [List.concat_eq_append] at hdirs hn ⊢
      rw [List.length_append, List.length_singleton] at hn
      have hlen : (dirs ++ [d]).length - (n + 1) = dirs.length - n := by
        rw [List.length_append, List.length_singleton]
        omega
      have hsplit : a ++ dirsText (dirs ++ [d]) ++ r = a ++ dirsText dirs ++ (47 :: d ++ r) := by
        rw [dirsText_concat]
        simp
      rw [Nat.add_right_comm, skipParents_succ, lastSlash_dirs (hdirs d (by simp)),
        Option.bind_some, hlen, List.take_append_of_le_length (by omega), hsplit]
      exact ih (fun d hd ↦ hdirs d (List.mem_append_left _ hd)) (by omega)

namespace BaseUrl

variable (u : BaseUrl)

/-- The last slash of a URL ends its directories. -/
theorem lastSlash_text :
    lastSlash u.text u.text.length = some (u.root ++ dirsText u.dirs).length := by
  have hlast := lastSlash_append (a := u.root ++ dirsText u.dirs) (r := []) u.noSlash.2.2
  rw [List.append_nil] at hlast
  rw [text, @List.length_append _ (u.root ++ dirsText u.dirs), List.length_cons, ← hlast]
  congr 1
  omega

/-- The first single slash of a URL ends its root. -/
theorem firstSlash_text : firstSlash u.text = some u.root.length := by
  obtain ⟨hscheme, hauthority, hleaf⟩ := u.noSlash
  have hone {r : List UInt8} (hr : r.head? ≠ some 47) : firstSlash (47 :: r) = some 0 := by
    cases r with
    | nil => rfl
    | cons c r =>
      have hc : c ≠ 47 := fun h ↦ hr (by rw [h]; rfl)
      rw [firstSlash, if_pos rfl, if_neg hc]
  have hpath : firstSlash (dirsText u.dirs ++ 47 :: u.leaf) = some 0 := by
    cases hdirs : u.dirs with
    | nil => exact hone fun hhead ↦ hleaf (List.mem_of_mem_head? hhead)
    | cons d ds =>
      obtain ⟨hne, hd⟩ := u.dirsOk d (by simp [hdirs])
      obtain ⟨c, cs, rfl⟩ := List.exists_cons_of_ne_nil hne
      exact hone fun hhead ↦ hd (List.mem_of_mem_head? hhead)
  have hsplit : u.text = (u.scheme ++ [58]) ++
      47 :: 47 :: (u.authority ++ (dirsText u.dirs ++ 47 :: u.leaf)) := by
    simp [text, root]
  rw [hsplit, firstSlash_append (by simpa using hscheme), firstSlash, if_pos rfl, if_pos rfl,
    firstSlash_append hauthority, hpath]
  simp only [Option.map_some, root, List.length_append, List.length_cons, List.length_nil]
  congr 1
  omega

/-- The base up to one of its directories. -/
theorem take_text (m : Nat) :
    u.text.take ((u.root ++ dirsText (u.dirs.take m)).length + 1) =
      u.root ++ dirsText (u.dirs.take m) ++ [47] := by
  obtain ⟨r, hr⟩ : ∃ r, dirsText (u.dirs.drop m) ++ 47 :: u.leaf = 47 :: r := by
    cases u.dirs.drop m with
    | nil => exact ⟨u.leaf, rfl⟩
    | cons d ds => exact ⟨d ++ (dirsText ds ++ 47 :: u.leaf), by simp [dirsText]⟩
  have hsplit : u.text = u.root ++ dirsText (u.dirs.take m) ++ ([47] ++ r) := by
    have hdirs : dirsText u.dirs = dirsText (u.dirs.take m) ++ dirsText (u.dirs.drop m) := by
      rw [dirsText, dirsText, dirsText, ← List.flatMap_append, List.take_append_drop]
    rw [text, hdirs, ← List.append_assoc, List.append_assoc, hr]
    rfl
  rw [hsplit, ← List.append_assoc, List.take_left' (by simp [Nat.add_assoc])]

/-- A reference that goes up is joined after the steps of the loop. -/
theorem joinUrl_above {ups : Nat} {path : List UInt8} (h : (Reference.above ups path).Plain) :
    joinUrl u.text (Reference.above ups path).text =
      (skipParents u.text (Reference.parents ups ++ path) (u.root ++ dirsText u.dirs).length).map
        (fun (len, ext) ↦ u.text.take (len + 1) ++ ext) := by
  obtain ⟨hplain, hzero⟩ := h
  have hhttp : strncmp (Reference.above ups path).text (ascii "http") 4 = 0 ↔
      ascii "http" <+: (Reference.above ups path).text := strncmp_eq_zero (by decide)
  cases ups with
  | zero =>
    obtain ⟨hnot, hdot, hhere, hhead⟩ := hzero rfl
    have htext : (Reference.above 0 path).text = path := rfl
    have hskip := skipParents_of_plain u.text (u.root ++ dirsText u.dirs).length hplain
    rw [htext] at hhttp ⊢
    rw [joinUrl, if_neg (fun h ↦ hnot (hhttp.mp h)), Reference.parents, List.nil_append, hskip,
      lastSlash_text]
    rw [if_neg (c := path.head? = some 47) (fun h ↦ (hhead 47 h).1 rfl),
      if_neg (c := path.head? = some 35) (fun h ↦ (hhead 35 h).2.1 rfl),
      if_neg (c := path.head? = some 63) (fun h ↦ (hhead 63 h).2.2 rfl)]
    split
    · next hfirst =>
      obtain ⟨rest, rfl⟩ : ∃ rest, path = 46 :: rest := by
        cases path with
        | nil => cases hfirst
        | cons c rest => exact ⟨rest, by rw [Option.some.inj hfirst]⟩
      rw [Option.bind_some, if_neg, if_neg, hskip]
      · intro hsecond
        cases rest with
        | nil => cases hsecond
        | cons c rest =>
          rw [Option.some.inj hsecond] at hhere
          exact hhere ⟨rest, rfl⟩
      · intro hlen
        cases rest with
        | nil => exact hdot rfl
        | cons c rest => cases hlen
    · rfl
  | succ n =>
    have htext : (Reference.above (n + 1) path).text =
        46 :: 46 :: 47 :: (Reference.parents n ++ path) := rfl
    have hnot : ¬ ascii "http" <+: (Reference.above (n + 1) path).text := by
      rw [htext]
      rintro ⟨r, hr⟩
      cases hr
    rw [joinUrl, if_neg (fun h ↦ hnot (hhttp.mp h)), lastSlash_text]
    rfl

/-- Above the root the steps find the slashes of the scheme, and then none. -/
theorem skipParents_root {path r : List UInt8} (n : Nat) (hplain : ¬ [46, 46, 47] <+: path) :
    skipParents (u.root ++ r) (Reference.parents (n + 1) ++ path) u.root.length =
      match n with
      | 0 => some (u.scheme.length + 2, path)
      | 1 => some (u.scheme.length + 1, path)
      | _ => none := by
  obtain ⟨hscheme, hauthority, _⟩ := u.noSlash
  have hfirst : lastSlash (u.root ++ r) u.root.length = some (u.scheme.length + 2) := by
    have hlast := lastSlash_append (a := u.scheme ++ [58, 47]) (r := r) hauthority
    have hlen : u.root.length = (u.scheme ++ [58, 47]).length + 1 + u.authority.length := by
      rw [root, List.length_append, List.length_cons]
      omega
    rw [hlen, root, List.append_assoc (u.scheme ++ [58, 47]), List.cons_append, hlast,
      List.length_append]
    rfl
  have hsecond : lastSlash (u.root ++ r) (u.scheme.length + 2) = some (u.scheme.length + 1) := by
    have hlast := lastSlash_append (a := u.scheme ++ [58]) (b := [])
      (r := 47 :: (u.authority ++ r)) (by simp)
    simpa [root] using hlast
  have hthird : lastSlash (u.root ++ r) (u.scheme.length + 1) = none := by
    have hnone (len : Nat) (hlen : len ≤ u.scheme.length + 1) :
        lastSlash (u.root ++ r) len = none := by
      induction len with
      | zero => rfl
      | succ len ih =>
        have hsplit : u.root ++ r = (u.scheme ++ [58]) ++ 47 :: 47 :: (u.authority ++ r) := by
          simp [root]
        have hget : (u.root ++ r).getD len 0 ≠ 47 := by
          have hlt : len < (u.scheme ++ [58]).length := by
            rw [List.length_append]
            exact hlen
          rw [hsplit, List.getD_eq_getElem?_getD, List.getElem?_append_left hlt,
            List.getElem?_eq_getElem hlt, Option.getD_some]
          intro heq
          have hmem := List.getElem_mem hlt
          rw [heq] at hmem
          simp [hscheme] at hmem
        rw [lastSlash, if_neg hget]
        exact ih (Nat.le_of_succ_le hlen)
    exact hnone _ (Nat.le_refl _)
  rw [skipParents_succ, hfirst, Option.bind_some]
  match n with
  | 0 => exact skipParents_of_plain _ _ hplain
  | 1 =>
    rw [skipParents_succ, hsecond, Option.bind_some]
    exact skipParents_of_plain _ _ hplain
  | n + 2 =>
    rw [skipParents_succ, hsecond, Option.bind_some, skipParents_succ, hthird]
    rfl

/-- References within the directories of the base are joined as they are meant. -/
theorem joinUrl_of_le {r : Reference} (h : r.Plain) (hle : r.ups ≤ u.dirs.length) :
    joinUrl u.text r.text = some (u.resolve r) := by
  cases r with
  | rooted path =>
    have hhttp : ¬ strncmp (47 :: path) (ascii "http") 4 = 0 := by
      rw [show (4 : Nat) = (ascii "http").length from rfl, strncmp_eq_zero (by decide)]
      rintro ⟨r, hr⟩
      cases hr
    have htake : u.text.take u.root.length = u.root := by
      rw [text, List.append_assoc, List.take_left' rfl]
    rw [Reference.text, joinUrl, if_neg hhttp, if_pos (by rfl), List.tail_cons, if_neg h,
      firstSlash_text]
    exact congrArg (fun root ↦ some (root ++ 47 :: path)) htake
  | here path =>
    have hhttp : ¬ strncmp (46 :: 47 :: path) (ascii "http") 4 = 0 := by
      rw [show (4 : Nat) = (ascii "http").length from rfl, strncmp_eq_zero (by decide)]
      rintro ⟨r, hr⟩
      cases hr
    have htake := u.take_text u.dirs.length
    rw [List.take_length] at htake
    rw [Reference.text, joinUrl, if_neg hhttp, List.head?_cons, if_neg (by decide), if_pos rfl,
      lastSlash_text, Option.bind_some, if_neg (by simp), List.tail_cons, if_pos (by rfl), htake,
      resolve, List.append_assoc _ [47]]
    rfl
  | above ups path =>
    have hsteps := skipParents_dirs (a := u.root) (n := ups) (p := path) (r := 47 :: u.leaf)
      (k := 0) (fun d hd ↦ (u.dirsOk d hd).2) hle
    have hskip := skipParents_of_plain u.text
      (u.root ++ dirsText (u.dirs.take (u.dirs.length - ups))).length h.1
    rw [Nat.add_zero, Reference.parents, List.nil_append, ← text, hskip] at hsteps
    have htake := u.take_text (u.dirs.length - ups)
    rw [u.joinUrl_above h, hsteps, resolve, ← List.singleton_append, ← List.append_assoc, ← htake]
    rfl

/-- A reference above the root loses the host. -/
theorem joinUrl_of_lt {ups : Nat} {path : List UInt8} (h : (Reference.above ups path).Plain)
    (hlt : u.dirs.length < ups) :
    joinUrl u.text (Reference.above ups path).text =
      if ups = u.dirs.length + 1 then some (u.scheme ++ [58, 47, 47] ++ path)
      else if ups = u.dirs.length + 2 then some (u.scheme ++ [58, 47] ++ path)
      else none := by
  obtain ⟨n, rfl⟩ := Nat.exists_eq_add_of_lt hlt
  have hsteps := skipParents_dirs (a := u.root) (p := path) (r := 47 :: u.leaf) (k := n + 1)
    (fun d hd ↦ (u.dirsOk d hd).2) (Nat.le_refl _)
  have hroot := u.skipParents_root (r := dirsText u.dirs ++ 47 :: u.leaf) n h.1
  rw [← List.append_assoc, ← text] at hroot
  rw [Nat.sub_self, List.take_zero, show dirsText [] = [] from rfl, List.append_nil, ← text,
    ← Nat.add_assoc] at hsteps
  rw [u.joinUrl_above h, hsteps, hroot]
  have htake (m : Nat) (hm : m ≤ 3) : u.text.take (u.scheme.length + m) =
      u.scheme ++ [58, 47, 47].take m := by
    have hsplit : u.text = u.scheme ++ ([58, 47, 47] ++ (u.authority ++ dirsText u.dirs ++
        47 :: u.leaf)) := by
      simp [text, root]
    rw [hsplit, List.take_append, List.take_of_length_le (Nat.le_add_right _ _),
      Nat.add_sub_cancel_left, List.take_append_of_le_length hm]
  match n with
  | 0 =>
    rw [if_pos rfl]
    exact congrArg (fun text ↦ some (text ++ path)) (htake 3 (Nat.le_refl _))
  | 1 =>
    rw [if_neg (by omega), if_pos rfl]
    exact congrArg (fun text ↦ some (text ++ path)) (htake 2 (by decide))
  | n + 2 =>
    rw [if_neg (by omega), if_neg (by omega)]
    rfl

/-- A reference is joined as it is meant exactly when it does not go above the root. A step above
the root replaces the host by what follows, two leave one slash, and more give nothing. -/
theorem joinUrl_resolves (r : Reference) (h : r.Plain) :
    (joinUrl u.text r.text = some (u.resolve r) ↔ r.ups ≤ u.dirs.length) ∧
      ∀ ups path, r = .above ups path → u.dirs.length < ups → joinUrl u.text r.text =
        if ups = u.dirs.length + 1 then some (u.scheme ++ [58, 47, 47] ++ path)
        else if ups = u.dirs.length + 2 then some (u.scheme ++ [58, 47] ++ path)
        else none := by
  refine ⟨⟨fun hjoin ↦ ?_, u.joinUrl_of_le h⟩, ?_⟩
  · refine Nat.le_of_not_lt fun hlt ↦ ?_
    cases r with
    | rooted path => exact absurd hlt (Nat.not_lt_zero _)
    | here path => exact absurd hlt (Nat.not_lt_zero _)
    | above ups path =>
      replace hlt : u.dirs.length < ups := hlt
      have hlength : (u.resolve (.above ups path)).length =
          u.scheme.length + u.authority.length + path.length + 4 := by
        rw [resolve, Nat.sub_eq_zero_of_le (Nat.le_of_lt hlt), List.take_zero]
        simp only [root, dirsText, List.flatMap_nil, List.append_nil, List.length_append,
          List.length_cons, List.length_nil]
        omega
      rw [u.joinUrl_of_lt h hlt] at hjoin
      split at hjoin
      · rw [← Option.some.inj hjoin] at hlength
        simp only [List.length_append, List.length_cons, List.length_nil] at hlength
        omega
      · split at hjoin
        · rw [← Option.some.inj hjoin] at hlength
          simp only [List.length_append, List.length_cons, List.length_nil] at hlength
          omega
        · cases hjoin
  · rintro ups path rfl hlt
    exact u.joinUrl_of_lt h hlt

end BaseUrl

/-- `http://host/a/b/c`. -/
private def deepUrl : BaseUrl where
  scheme := ascii "http"
  authority := ascii "host"
  dirs := [ascii "a", ascii "b"]
  leaf := ascii "c"
  noSlash := by decide
  dirsOk := by decide
  noQuery := by decide
  noDots := by decide

/-- Up to the root of the host, and out of it. -/
theorem joinUrl_resolves_deepUrl :
    joinUrl (ascii "http://host/a/b/c") (ascii "../../d") = some (ascii "http://host/d") ∧
      joinUrl (ascii "http://host/a/b/c") (ascii "../../../evil/d") =
        some (ascii "http://evil/d") := by
  have hplain (n : Nat) (path : List UInt8) (hpath : ¬ [46, 46, 47] <+: path) :
      (Reference.above (n + 1) path).Plain := ⟨hpath, fun h ↦ absurd h (by omega)⟩
  have htext : deepUrl.text = ascii "http://host/a/b/c" := by decide
  rw [← htext]
  refine ⟨?_, ?_⟩
  · exact (deepUrl.joinUrl_resolves (.above 2 (ascii "d")) (hplain 1 _ (by decide))).1.mpr
      (by decide)
  · exact (deepUrl.joinUrl_resolves (.above 3 (ascii "evil/d")) (hplain 2 _ (by decide))).2 3 _
      rfl (by decide)

/-! ### Origins -/

/-- A byte of a host name or of an IPv4 address: an IPv6 literal starts with a bracket, user
information ends at an `@`. -/
def inName (c : UInt8) : Bool := inHost c && inPath c && c ≠ 64 && c ≠ 91

/-- A URL with the parts of its authority, whose path is empty or starts with a slash; the port is a
16-bit number. -/
structure AuthorityUrl where
  scheme : List UInt8
  user : Option (List UInt8 × List UInt8)
  host : List UInt8
  port : Option (List UInt8)
  path : List UInt8
  schemeOk : 58 ∉ scheme ∧ scheme.length < 65536
  userOk : ∀ info ∈ user, info.1.all inName = true ∧ info.1.length < 65536
  passwordOk : ∀ info ∈ user, info.2.all (fun c ↦ c = 58 || inName c) = true
  hostOk : host.all inName = true ∧ host.length < 65536
  portOk : ∀ ds ∈ port, ds ≠ [] ∧ ds.all isDigit = true ∧ digitsValue ds < 65536
  pathOk : ∀ c ∈ path.head?, c = 47

namespace AuthorityUrl

/-- What follows the scheme and the user information. -/
def hostText (u : AuthorityUrl) : List UInt8 :=
  u.host ++ ((u.port.map (58 :: ·)).getD [] ++ u.path)

/-- The text of a URL. -/
def text (u : AuthorityUrl) : List UInt8 :=
  u.scheme ++ ([58, 47, 47] ++
    ((u.user.map (fun info ↦ info.1 ++ 58 :: (info.2 ++ [64]))).getD [] ++ u.hostText))

/-- The port, which defaults to that of the scheme. -/
def portNumber (u : AuthorityUrl) : UInt16 :=
  match u.port with
  | some ds => UInt16.ofNat (digitsValue ds)
  | none => if u.scheme = ascii "https" then 443 else if u.scheme = ascii "http" then 80 else 0

/-- The origin: scheme, host and port. -/
def origin (u : AuthorityUrl) : UrlComponent := ⟨u.scheme, u.host, u.portNumber⟩

end AuthorityUrl

/-- A name goes on to its end. -/
theorem inHost_of_inName {name : List UInt8} (h : name.all inName = true) :
    name.all inHost = true := by
  rw [List.all_eq_true] at h ⊢
  intro c hc
  have hname := h c hc
  simp only [inName, Bool.and_eq_true] at hname
  exact hname.1.1.1

/-- The parts of a URL whose host is followed by something else. -/
theorem parseUrl_of_host {scheme host r : List UInt8}
    (hscheme : 58 ∉ scheme ∧ scheme.length < 65536)
    (hhost : host.all inHost = true ∧ host.length < 65536)
    (hrest : ∀ c ∈ r.head?, inHost c = false) :
    parseUrl (scheme ++ ([58, 47, 47] ++ (host ++ r))) = some
      { scheme := scheme
        host := host
        port :=
          if r.head? = some 58 then UInt16.ofInt (strtol r.tail)
          else if scheme = ascii "https" then 443
          else if scheme = ascii "http" then 80
          else 0 } := by
  have hstr : strstr (ascii "://") (scheme ++ ([58, 47, 47] ++ (host ++ r))) =
      some scheme.length := strstr_append hscheme.1
  have hdrop : (scheme ++ ([58, 47, 47] ++ (host ++ r))).drop (scheme.length + 3) =
      host ++ r := by
    rw [← List.append_assoc scheme, List.drop_left' (by simp)]
  have htake : (host ++ r).takeWhile inHost = host := by
    rw [List.takeWhile_append_of_pos (List.all_eq_true.mp hhost.1)]
    cases r with
    | nil => simp
    | cons c r => simp [hrest c rfl]
  have hleft : (host ++ r).dropWhile inHost = r := by
    rw [List.dropWhile_append_of_pos (List.all_eq_true.mp hhost.1)]
    cases r with
    | nil => rfl
    | cons c r => simp [hrest c rfl]
  have hfirst : (scheme ++ ([58, 47, 47] ++ (host ++ r))).take scheme.length = scheme :=
    List.take_left' rfl
  have hsecond : (host ++ r).take host.length = host := List.take_left' rfl
  rw [parseUrl, hstr, Option.map_some]
  simp only [hdrop, htake, hleft, Nat.mod_eq_of_lt hscheme.2, Nat.mod_eq_of_lt hhost.2, hfirst,
    hsecond]

/-- A number ends at a slash. -/
theorem strtol_digits {ds r : List UInt8} (hne : ds ≠ []) (hds : ds.all isDigit = true)
    (hr : ∀ c ∈ r.head?, c = 47) : strtol (ds ++ r) = min (digitsValue ds : Int) longMax := by
  obtain ⟨c, cs, rfl⟩ := List.exists_cons_of_ne_nil hne
  have htake : (c :: cs ++ r).takeWhile isDigit = c :: cs := by
    rw [List.takeWhile_append_of_pos (List.all_eq_true.mp hds)]
    cases r with
    | nil => simp
    | cons d r =>
      rw [hr d rfl, List.takeWhile_cons, if_neg (by decide), List.append_nil]
  have hc : isDigit c = true := List.all_eq_true.mp hds c (by simp)
  have hfirst : isSpace c = false ∧ c ≠ 45 ∧ c ≠ 43 := by
    simp only [isDigit, isSpace, Bool.and_eq_true, decide_eq_true_eq, UInt8.le_iff_toNat_le,
      ← UInt8.toNat_inj, ne_eq, Bool.or_eq_false_iff, Bool.and_eq_false_iff,
      decide_eq_false_iff_not, UInt8.reduceToNat] at hc ⊢
    omega
  obtain ⟨hspace, hminus, hplus⟩ := hfirst
  have hskip : (c :: cs ++ r).dropWhile isSpace = c :: cs ++ r := by
    rw [List.cons_append, List.dropWhile_cons, hspace]
    rfl
  have hhead : (c :: cs ++ r).head? = some c := rfl
  rw [strtol]
  simp only [hskip, hhead, htake, Option.some.injEq, hminus, hplus, if_false]

/-- What follows an `@` does not count for a number before it. -/
theorem strtol_at (p x y : List UInt8) : strtol (p ++ 64 :: x) = strtol (p ++ 64 :: y) := by
  have hdrop (x : List UInt8) :
      (p ++ 64 :: x).dropWhile isSpace = p.dropWhile isSpace ++ 64 :: x := by
    induction p with
    | nil => rfl
    | cons c p ih =>
      rw [List.cons_append, List.dropWhile_cons, List.dropWhile_cons]
      split
      · exact ih
      · rfl
  have htake (q x : List UInt8) : (q ++ 64 :: x).takeWhile isDigit = q.takeWhile isDigit := by
    induction q with
    | nil => rfl
    | cons c q ih =>
      rw [List.cons_append, List.takeWhile_cons, List.takeWhile_cons, ih]
  simp only [strtol, hdrop]
  cases p.dropWhile isSpace with
  | nil => rfl
  | cons c q =>
    rw [htake, htake]
    simp only [List.cons_append, List.head?_cons, List.tail_cons, htake]

namespace AuthorityUrl

/-- The parts that the code finds in a URL without user information. -/
theorem parseUrl_text {u : AuthorityUrl} (h : u.user = none) :
    parseUrl u.text = some u.origin := by
  have hrest : ∀ c ∈ ((u.port.map (58 :: ·)).getD [] ++ u.path).head?, inHost c = false := by
    intro c hc
    cases hport : u.port with
    | none =>
      rw [hport] at hc
      rw [u.pathOk c hc]
      rfl
    | some ds =>
      rw [hport] at hc
      obtain rfl : 58 = c := Option.some.inj hc
      rfl
  rw [text, h, Option.map_none, Option.getD_none, List.nil_append, hostText,
    parseUrl_of_host u.schemeOk ⟨inHost_of_inName u.hostOk.1, u.hostOk.2⟩ hrest, origin,
    portNumber]
  cases hport : u.port with
  | none =>
    have hpath : u.path.head? ≠ some 58 := fun hc ↦ absurd (u.pathOk 58 hc) (by decide)
    rw [Option.map_none, Option.getD_none, List.nil_append, if_neg hpath]
  | some ds =>
    obtain ⟨hne, hdigits, hlt⟩ := u.portOk ds hport
    have hmax : (digitsValue ds : Int) ≤ longMax := by
      have : longMax = 2147483647 := rfl
      omega
    have hport : UInt16.ofInt (digitsValue ds : Int) = UInt16.ofNat (digitsValue ds) := by
      rw [UInt16.ofInt, Int.emod_eq_of_lt (by omega) (by omega), Int.toNat_natCast]
    rw [Option.map_some, Option.getD_some, List.cons_append, List.head?_cons, if_pos rfl,
      List.tail_cons, strtol_digits hne hdigits u.pathOk, Int.min_eq_left hmax, hport]

/-- The parts that the code finds in a URL with user information. -/
theorem parseUrl_user {u v : AuthorityUrl} {info : List UInt8 × List UInt8}
    (hu : u.user = some info) (hv : v.user = some info) (hscheme : u.scheme = v.scheme) :
    ∃ c, parseUrl u.text = some c ∧ parseUrl v.text = some c := by
  have hparse (w : AuthorityUrl) (hw : w.user = some info) := by
    obtain ⟨huser, hlength⟩ := w.userOk info hw
    exact parseUrl_of_host (r := 58 :: (info.2 ++ 64 :: w.hostText)) w.schemeOk
      ⟨inHost_of_inName huser, hlength⟩ (fun c hc ↦ by
        rw [← Option.some.inj hc]
        rfl)
  have htext (w : AuthorityUrl) (hw : w.user = some info) : w.text =
      w.scheme ++ ([58, 47, 47] ++ (info.1 ++ 58 :: (info.2 ++ 64 :: w.hostText))) := by
    rw [text, hw]
    simp
  have hsame := hparse v hv
  rw [List.tail_cons, strtol_at info.2 v.hostText u.hostText, ← hscheme] at hsame
  exact ⟨_, by rw [htext u hu, hparse u hu], by rw [htext v hv, ← hscheme, hsame]; rfl⟩

/-- URLs without user information are of the same origin for the code exactly when they are. With
the same user, password and scheme they always are for it, whatever their hosts and ports. -/
theorem isSameOrigin_iff (u v : AuthorityUrl) :
    (u.user = none → v.user = none → (isSameOrigin u.text v.text = true ↔ u.origin = v.origin)) ∧
      (u.user = v.user → u.user ≠ none → u.scheme = v.scheme →
        isSameOrigin u.text v.text = true) := by
  refine ⟨fun hu hv ↦ ?_, fun huser hsome hscheme ↦ ?_⟩
  · rw [isSameOrigin, parseUrl_text hu, parseUrl_text hv]
    rw [Bool.and_eq_true, Bool.and_eq_true, decide_eq_true_iff, decide_eq_true_iff,
      decide_eq_true_iff, and_assoc, origin, origin, UrlComponent.mk.injEq]
  · obtain ⟨info, hu⟩ := Option.ne_none_iff_exists'.mp hsome
    obtain ⟨c, hc, hc'⟩ := parseUrl_user hu (huser.symm.trans hu) hscheme
    rw [isSameOrigin, hc, hc']
    simp

end AuthorityUrl

/-- A URL on a host, with a port or with user information. -/
private def hostUrl (user : Option (List UInt8 × List UInt8)) (host : List UInt8)
    (port : Option (List UInt8))
    (userOk : ∀ info ∈ user, info.1.all inName = true ∧ info.1.length < 65536)
    (passwordOk : ∀ info ∈ user, info.2.all (fun c ↦ c = 58 || inName c) = true)
    (hostOk : host.all inName = true ∧ host.length < 65536)
    (portOk : ∀ ds ∈ port, ds ≠ [] ∧ ds.all isDigit = true ∧ digitsValue ds < 65536) :
    AuthorityUrl where
  scheme := ascii "http"
  user := user
  host := host
  port := port
  path := ascii "/"
  schemeOk := by decide +kernel
  userOk := userOk
  passwordOk := passwordOk
  hostOk := hostOk
  portOk := portOk
  pathOk := by decide +kernel

/-- The default port is the port, and user information hides the host. -/
theorem isSameOrigin_iff_hosts :
    isSameOrigin (ascii "http://host/") (ascii "http://host:80/") = true ∧
      isSameOrigin (ascii "http://me:pw@host/") (ascii "http://me:pw@other/") = true := by
  have hplain := AuthorityUrl.isSameOrigin_iff
    (hostUrl none (ascii "host") none (by decide +kernel) (by decide +kernel) (by decide +kernel)
      (by decide +kernel))
    (hostUrl none (ascii "host") (some (ascii "80")) (by decide +kernel) (by decide +kernel)
      (by decide +kernel) (by decide +kernel))
  have huser := AuthorityUrl.isSameOrigin_iff
    (hostUrl (some (ascii "me", ascii "pw")) (ascii "host") none (by decide +kernel)
      (by decide +kernel) (by decide +kernel) (by decide +kernel))
    (hostUrl (some (ascii "me", ascii "pw")) (ascii "other") none (by decide +kernel)
      (by decide +kernel) (by decide +kernel) (by decide +kernel))
  exact ⟨(hplain.1 rfl rfl).mpr (by decide +kernel), huser.2 rfl (by decide) rfl⟩

end Esp32Robot.Http
