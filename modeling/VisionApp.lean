import VisionApp.EventMachine.History
import VisionApp.App.Effects
import VisionApp.SpeechKit.Listening
import VisionApp.SpeechKit.Speaking
import VisionApp.SpeechKit.CommandType
import VisionApp.ViewController.Selection
import VisionApp.Location.Guidance
import VisionApp.Location.NextMove
import VisionApp.App.Delegation
import VisionApp.App.Destination
import VisionApp.App.Announcement
import VisionApp.App.SavedLocation
import VisionApp.Location.Directions
import VisionApp.Location.RouteScan
import VisionApp.ViewController.Searches
import VisionApp.Location.Address
import VisionApp.ViewController.Classification
import VisionApp.ViewController.LocalSearch
import VisionApp.ViewController.SearchThrottle
import VisionApp.ViewController.Swipes
import VisionApp.ViewController.TableRows
import VisionApp.App.TakeMeTo
import VisionApp.Location.Positions
import VisionApp.EventMachine.Dispatch
import VisionApp.ViewController.ClassifierResults
import VisionApp.App.Calls
import VisionApp.EventMachine.Component
import VisionApp.App.Addresses
import VisionApp.App.Microphone
import VisionApp.App.Navigation
import VisionApp.App.SavedNames
import VisionApp.App.ShownLocations
import VisionApp.App.Spoken
import VisionApp.App.Traps
import VisionApp.App.Utterances
import VisionApp.App.Workload
import VisionApp.Realm.Persistence
import VisionApp.Realm.Saves
import VisionApp.App.Rest
