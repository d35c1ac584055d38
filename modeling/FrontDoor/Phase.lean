namespace FrontDoor

inductive Phase where
  | before
  | after
deriving DecidableEq, Repr

namespace Phase

def all : List Phase := [before, after]

def name : Phase → String
  | before => "before"
  | after => "after"

instance : ToString Phase := ⟨name⟩

def outline : Phase → String
  | before => "Before"
  | after => "After"

end Phase

end FrontDoor
