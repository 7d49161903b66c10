set_option autoImplicit false

namespace PackageAssay

inductive Hook where
  | preInstall
  | postInstall
  | preRemove
  | postRemove
  | preUpgrade
  | postUpgrade
deriving DecidableEq, Repr

namespace Hook

def all : List Hook :=
  [.preInstall, .postInstall, .preRemove, .postRemove, .preUpgrade, .postUpgrade]

def name : Hook → String
  | .preInstall => "pre_install"
  | .postInstall => "post_install"
  | .preRemove => "pre_remove"
  | .postRemove => "post_remove"
  | .preUpgrade => "pre_upgrade"
  | .postUpgrade => "post_upgrade"

def ofName? (name : String) : Option Hook :=
  all.find? fun hook => hook.name = name

end Hook

structure Scriptlets where
  preInstall : String := ""
  postInstall : String := ""
  preRemove : String := ""
  postRemove : String := ""
  preUpgrade : String := ""
  postUpgrade : String := ""
deriving DecidableEq, Repr

namespace Scriptlets

def body (scriptlets : Scriptlets) : Hook → String
  | .preInstall => scriptlets.preInstall
  | .postInstall => scriptlets.postInstall
  | .preRemove => scriptlets.preRemove
  | .postRemove => scriptlets.postRemove
  | .preUpgrade => scriptlets.preUpgrade
  | .postUpgrade => scriptlets.postUpgrade

def setBody (scriptlets : Scriptlets) (hook : Hook) (text : String) : Scriptlets :=
  match hook with
  | .preInstall => { scriptlets with preInstall := text }
  | .postInstall => { scriptlets with postInstall := text }
  | .preRemove => { scriptlets with preRemove := text }
  | .postRemove => { scriptlets with postRemove := text }
  | .preUpgrade => { scriptlets with preUpgrade := text }
  | .postUpgrade => { scriptlets with postUpgrade := text }

theorem body_setBody (scriptlets : Scriptlets) (hook other : Hook) (text : String) :
    (scriptlets.setBody hook text).body other =
      if other = hook then text else scriptlets.body other := by
  cases hook <;> cases other <;> rfl

def present (scriptlets : Scriptlets) : List Hook :=
  Hook.all.filter fun hook => scriptlets.body hook ≠ ""

def isEmpty (scriptlets : Scriptlets) : Bool :=
  scriptlets.present.isEmpty

end Scriptlets

end PackageAssay
