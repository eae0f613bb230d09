import VisionApp.Foundation

/-!
# The store of saved locations

`RealmManager` keeps the saved `LocationModel`s in the order in which they were
added. Their identifier and altitude are never read and are left out.
-/

namespace VisionApp

structure LocationModel where
  locationName : String := ""
  locationPlacemark : String := ""
  locatoinLatitude : Double := {}
  locationLongitude : Double := {}
deriving DecidableEq, Repr

/-- The coordinate that `VisionViewController` builds from a destination. -/
def LocationModel.coordinate (location : LocationModel) : CLLocationCoordinate2D where
  latitude := location.locatoinLatitude
  longitude := location.locationLongitude

structure RealmManager where
  locations : List LocationModel := []
deriving DecidableEq, Repr

namespace RealmManager

def saveLocation (realm : RealmManager) (locationDetails : LocationModel) : RealmManager where
  locations := realm.locations ++ [locationDetails]

def getLocationList (realm : RealmManager) : List LocationModel :=
  realm.locations

end RealmManager

end VisionApp
