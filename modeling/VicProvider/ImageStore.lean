import Mathlib.Logic.Basic

/-!
# The image store

`VicImageStore.Get` looks an image up in the image cache and, when it is
missing and `actuate` is set, asks the docker persona to pull it (`PullImage`,
one HTTP POST) and looks it up again.  The cache and the persona are outside
this repository: they are `Services` over an abstract world, in which a POST may
change the world (the persona fills the cache) and a lookup does not.

A config `Get` returns stays in the cache of the world it leaves
(`cacheGet_of_get`), so a second `Get` of the same name finds it without a pull
and without changing the world (`get_get_of_found`).
-/

namespace Vic.Proxy

/-- An HTTP response as `PullImage` reads it: the status code, and the outcome
of reading the body. -/
structure Response where
  statusCode : Int
  body : Except String String

/-- The calls `VicImageStore` makes, over a world `W`: `cache.ImageCache().Get`,
whose error comes with a nil config, and `http.Client.Post`. -/
structure Services (W Img : Type) where
  cacheGet : W → String → Except String Img
  post : W → String → String → Except String Response × W

/-- `VicImageStore`, with the field its operations read. -/
structure VicImageStore where
  personaAddr : String

namespace VicImageStore

variable {W Img : Type} (v : VicImageStore) (s : Services W Img)

/-- The persona URL `PullImage` posts to. -/
def pullURL (image tag : String) : String :=
  if tag = "" then "http://" ++ v.personaAddr ++ "/v1.35/images/create?fromImage=" ++ image
  else "http://" ++ v.personaAddr ++ "/v1.35/images/create?fromImage=" ++ image ++ "&tag=" ++ tag

/-- `PullImage`: the error text, if any, and the world after the POST. -/
def pullImage (w : W) (image tag : String) : Option String × W :=
  match s.post w (v.pullURL image tag) "application/json" with
  | (.error err, w') => (some err, w')
  | (.ok resp, w') =>
    if resp.statusCode ≠ 200 then
      (some ("Error from docker pull: status = " ++ toString resp.statusCode), w')
    else match resp.body with
      | .error err => (some ("Error reading docker pull response: error = " ++ err), w')
      | .ok _ => (none, w')

/-- `Get`: the config (`none` for a nil pointer) and the error, and the world
after. -/
def get (w : W) (idOrRef tag : String) (actuate : Bool) : (Option Img × Option String) × W :=
  match s.cacheGet w idOrRef with
  | .ok c => ((some c, none), w)
  | .error _ =>
    if actuate then
      match v.pullImage s w idOrRef tag with
      | (some _, w') => ((none, none), w')
      | (none, w') =>
        match s.cacheGet w' idOrRef with
        | .ok c => ((some c, none), w')
        | .error err => ((none, some err), w')
    else ((none, none), w)

variable {v s}

/-- A config `Get` returns is in the cache of the world it leaves. -/
theorem cacheGet_of_get {w : W} {idOrRef tag : String} {actuate : Bool} {c : Img}
    (hfound : (v.get s w idOrRef tag actuate).1.1 = some c) :
    s.cacheGet (v.get s w idOrRef tag actuate).2 idOrRef = .ok c := by
  unfold get at hfound ⊢
  rcases h : s.cacheGet w idOrRef with e | c'
  · cases actuate
    · simp [h] at hfound
    · rcases hp : v.pullImage s w idOrRef tag with ⟨_ | _, w'⟩
      · rcases h' : s.cacheGet w' idOrRef with e' | c'' <;> simp_all
      · simp [h, hp] at hfound
  · simp_all

/-- **A config `Get` returns is found again**: a second `Get` of the same name,
in the world the first one left, returns it from the cache with no error and
leaves the world as it is, whatever its tag and `actuate`. -/
theorem get_get_of_found {w : W} {idOrRef tag tag' : String} {actuate actuate' : Bool} {c : Img}
    (hfound : (v.get s w idOrRef tag actuate).1.1 = some c) :
    v.get s (v.get s w idOrRef tag actuate).2 idOrRef tag' actuate' =
      ((some c, none), (v.get s w idOrRef tag actuate).2) := by
  have hcache := cacheGet_of_get hfound
  generalize (v.get s w idOrRef tag actuate).2 = w' at hcache ⊢
  unfold get
  rw [hcache]

/-- A persona that answers every pull with status 200 and then has `busybox` in
the cache; the world is the list of cached names. -/
def fillingPersona : Services (List String) String :=
  ⟨fun w name => if name ∈ w then .ok name else .error ("No such image: " ++ name),
    fun w _ _ => (.ok ⟨200, .ok ""⟩, "busybox" :: w)⟩

/-- An image pulled by a first `Get` is found by a second one without a pull. -/
theorem get_get_of_found_pulled :
    ((⟨"127.0.0.1:2375"⟩ : VicImageStore).get fillingPersona [] "busybox" "" true).1.1 =
      some "busybox" ∧
    (⟨"127.0.0.1:2375"⟩ : VicImageStore).get fillingPersona
        ((⟨"127.0.0.1:2375"⟩ : VicImageStore).get fillingPersona [] "busybox" "" true).2
        "busybox" "latest" false =
      ((some "busybox", none),
        ((⟨"127.0.0.1:2375"⟩ : VicImageStore).get fillingPersona [] "busybox" "" true).2) :=
  ⟨rfl, get_get_of_found rfl⟩

end VicImageStore

end Vic.Proxy
